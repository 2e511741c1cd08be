import Stencil.Digest.Xxh64
import Stencil.Generator.Recipe
import Stencil.Proofs.Pipeline.Conflicts
import Stencil.Proofs.Pipeline.OpenHoles

/-!
# The log of a pass

The events of a pass are logged line by line.  They are emitted in different parts of the pass:
while the findings are sorted out, while it is found out what becomes of the drafts, while these are
rendered, and afterwards.  The report is put together apart from them, so that it has to be proved
that both tell of the same pass.

A pass that ends in a conflict logs nothing of what it has described up to then; the candidates that
were skipped before the place of the conflict are logged all the same.

The main results are

* `Survey.ofFindings_append`: sorting out goes through the findings one after the other;
* `Pipeline.outdated_iff`: which pipelines keep artifacts that were made under other options;
* `Pipeline.log_exact`: the lines that a pass logs, from what it reports.
-/

namespace Stencil

/-! ## Lines -/

/-- One line of a log. -/
structure LogLine where
  level : Level
  message : String
  /-- The named fields with their texts. -/
  fields : List (String × String)
deriving DecidableEq

/-- The line that is logged for an event. -/
def Event.line (e : Event) : LogLine := ⟨e.level, e.message, e.fields⟩

namespace LogLine

/-- So many artifacts are kept that were made under other options. -/
def changedOptions (cached : Nat) : LogLine where
  level := .debug
  message := "generator options changed, regenerating every artifact"
  fields := [("cached", toString cached)]

/-- A generator makes nothing of a candidate. -/
def skipped (generator : String) (reason : Skip) : LogLine where
  level := .trace
  message := "candidate skipped"
  fields := [("generator", generator), ("reason", reason.message)]

/-- An artifact is taken over. -/
def reused (key : ArtifactKey) : LogLine where
  level := .debug
  message := "reusing cached output"
  fields := [("generator", key.generator), ("identity", key.identity)]

/-- An artifact is made; it may have been kept from before. -/
def rendered (key : ArtifactKey) (changed : Bool) : LogLine where
  level := .debug
  message := "rendering artifact"
  fields := [("generator", key.generator), ("identity", key.identity),
    ("changed", if changed then "true" else "false")]

/-- There is a warning about an artifact. -/
def warned (w : Warning) : LogLine where
  level := .warn
  message := "pattern references placeholders without a value"
  fields := [("generator", w.key.generator), ("identity", w.key.identity),
    ("missing", w.locations)]

/-- An artifact is no longer kept. -/
def removed (key : ArtifactKey) : LogLine where
  level := .debug
  message := "artifact removed"
  fields := [("generator", key.generator), ("identity", key.identity)]

/-- A pass is over, with its number and with what it has counted. -/
def finished (pass : Nat) (stats : Stats) : LogLine where
  level := .info
  message := "generation pass finished"
  fields := [("pass", toString pass), ("candidates", toString stats.candidates),
    ("generated", toString stats.generated), ("reused", toString stats.reused),
    ("skipped", toString stats.skipped), ("removed", toString stats.removed)]

end LogLine

/-! ## Sorting out -/

namespace Survey

/-- Findings with no repeated key among them are sorted out one by one, and what is behind them is
sorted out with their keys as seen. -/
theorem ofFindings_append {seen : List ArtifactKey} {front : List Finding}
    (h : firstRepeated? seen ((front.filterMap Finding.draft?).map Draft.key) = none)
    (rest : List Finding) :
    ofFindings seen (front ++ rest) =
      let behind :=
        ofFindings (((front.filterMap Finding.draft?).map Draft.key).reverse ++ seen) rest
      ⟨front.filterMap Finding.skip? ++ behind.skips,
        front.filterMap Finding.draft? ++ behind.drafts, behind.repeated⟩ := by
  induction front generalizing seen with
  | nil => rfl
  | cons finding front ih =>
    obtain ⟨generator, extraction⟩ := finding
    cases extraction with
    | error reason =>
      have hdraft : Finding.draft? ⟨generator, .error reason⟩ = none := rfl
      have hskip : Finding.skip? ⟨generator, .error reason⟩ = some (generator.name, reason) := rfl
      rw [List.filterMap_cons_none hdraft] at h ⊢
      rw [List.cons_append, ofFindings, ih h, List.filterMap_cons_some hskip]
      rfl
    | ok descriptor =>
      have hdraft : Finding.draft? ⟨generator, .ok descriptor⟩ = some ⟨generator, descriptor⟩ := rfl
      have hskip : Finding.skip? ⟨generator, .ok descriptor⟩ = none := rfl
      rw [List.filterMap_cons_some hdraft, List.map_cons, firstRepeated?] at h
      by_cases hseen : (Draft.mk generator descriptor).key ∈ seen
      · rw [if_pos hseen] at h
        cases h
      · rw [if_neg hseen] at h
        rw [List.filterMap_cons_some hdraft, List.filterMap_cons_none hskip]
        simp only [List.cons_append, ofFindings, if_neg hseen, ih h, List.map_cons,
          List.reverse_cons, List.append_assoc, List.nil_append]

/-- Where the first key is repeated, sorting out ends with the findings skipped before. -/
lemma skips_of_conflict {front : List Finding} {finding : Finding} {d : Draft}
    (h : firstRepeated? [] ((front.filterMap Finding.draft?).map Draft.key) = none)
    (hdraft : finding.draft? = some d)
    (hkey : d.key ∈ (front.filterMap Finding.draft?).map Draft.key) (back : List Finding) :
    (ofFindings [] (front ++ finding :: back)).skips = front.filterMap Finding.skip? := by
  obtain rfl := Finding.draft?_eq_some_iff.1 hdraft
  have hseen : (Draft.mk d.generator d.descriptor).key ∈
      ((front.filterMap Finding.draft?).map Draft.key).reverse := List.mem_reverse.2 hkey
  simp only [ofFindings_append h, ofFindings, List.append_nil, if_pos hseen]

end Survey

namespace Pipeline

/-! ## Lines about places -/

section Places

variable {candidates : List Candidate}

/-- The line about a place at which the generator makes nothing of the candidate. -/
def skipLine? (p : Pipeline) (place : p.Place candidates) : Option LogLine :=
  match (p.generators.get place.generator).extract (candidates.get place.candidate) p.options with
  | .ok _ => none
  | .error reason => some (.skipped (p.generators.get place.generator).name reason)

/-- The line about a place at which the generator describes an artifact, if the report says of each
artifact whether it is fresh. -/
def artifactLine? (p : Pipeline) (r : Report) (place : p.Place candidates) : Option LogLine :=
  (p.key? place).map fun key =>
    if r.isFresh key = true then .rendered key (p.kept? key).isSome else .reused key

variable {p : Pipeline}

lemma skipLine?_eq (place : p.Place candidates) :
    p.skipLine? place = (p.finding place).skip?.map fun skip => .skipped skip.1 skip.2 := by
  unfold skipLine? finding Finding.skip?
  dsimp only
  cases (p.generators.get place.generator).extract (candidates.get place.candidate) p.options <;>
    rfl

lemma map_line_events (places : List (p.Place candidates)) :
    ((places.map p.finding).filterMap Finding.skip?).map
        (fun skip => (Event.skipped skip.1 skip.2).line) =
      places.filterMap p.skipLine? := by
  rw [List.filterMap_map, List.map_filterMap]
  exact List.filterMap_congr fun place _ => (skipLine?_eq place).symm

end Places

/-! ## Kept artifacts of other options -/

section Main

variable [TextHash]

/-- What a pipeline keeps behind a history are so many artifacts, and the latest pass made them
under options of another digest than those of the pipeline. -/
def Outdated (p : Pipeline) (history : List Step) (count : Nat) : Prop :=
  ∃ before candidates report, p.LatestPass history before candidates report ∧
    report.outputs.length = count ∧ count ≠ 0 ∧
    (p.after before).options.fingerprint ≠ (p.after history).options.fingerprint

/-- How the log of a pass behind a history opens. -/
inductive Opening (p : Pipeline) (history : List Step) : List LogLine → Prop where
  | outdated {count : Nat} (h : p.Outdated history count) :
      Opening p history [.changedOptions count]
  | upToDate (h : ∀ count, ¬ p.Outdated history count) : Opening p history []

variable {p : Pipeline} {history : List Step} {candidates : List Candidate} {memo : ScanMemo}
  {r : Report}

/-- A pipeline keeps as many artifacts as the latest pass had outputs. -/
lemma LatestPass.size_cache {before : List Step}
    (h : p.LatestPass history before candidates r) :
    (p.after history).cache.size = r.outputs.length := by
  obtain ⟨hcache, -, houtputs⟩ := h.cache_eq
  rw [hcache, houtputs, outputs_afterPass, Table.size, entries_afterPass, List.length_map,
    List.length_map, List.length_mergeSort]

/-- What is kept is outdated if there is anything and if it is not of the present options. -/
theorem outdated_iff (hp : p.Created) {count : Nat} :
    p.Outdated history count ↔
      (p.after history).isCurrent = false ∧ (p.after history).cache.size = count ∧ count ≠ 0 := by
  have hcurrent {before candidates report}
      (hlatest : p.LatestPass history before candidates report) :
      (p.after history).isCurrent = false ↔
        (p.after before).options.fingerprint ≠ (p.after history).options.fingerprint := by
    rw [isCurrent, hlatest.cache_eq.2.1, beq_eq_false_iff_ne, Ne, Option.some.injEq]
  constructor
  · rintro ⟨before, candidates, report, hlatest, hcount, hne, hother⟩
    exact ⟨(hcurrent hlatest).2 hother, hlatest.size_cache.trans hcount, hne⟩
  · rintro ⟨hstale, hcount, hne⟩
    rcases cache_eq_empty_or_latestPass hp history with
      hempty | ⟨before, candidates, report, hlatest⟩
    · rw [hempty] at hcount
      exact absurd hcount.symm hne
    · exact ⟨before, candidates, report, hlatest, hlatest.size_cache.symm.trans hcount, hne,
        (hcurrent hlatest).1 hstale⟩

lemma opening_openingEvents (hp : p.Created) (history : List Step) :
    p.Opening history ((p.after history).openingEvents.map Event.line) := by
  unfold openingEvents
  by_cases h : (!(p.after history).isCurrent && !(p.after history).cache.isEmpty) = true
  · rw [if_pos h]
    rw [Bool.and_eq_true, Bool.not_eq_true', Bool.not_eq_true', Table.isEmpty,
      List.isEmpty_eq_false_iff] at h
    exact .outdated ((outdated_iff hp).2 ⟨h.1, rfl, mt List.length_eq_zero_iff.1 h.2⟩)
  · rw [if_neg h]
    refine .upToDate fun count houtdated => h ?_
    obtain ⟨hstale, rfl, hne⟩ := (outdated_iff hp).1 houtdated
    rw [Bool.and_eq_true, Bool.not_eq_true', Bool.not_eq_true', Table.isEmpty,
      List.isEmpty_eq_false_iff]
    exact ⟨hstale, mt List.length_eq_zero_iff.2 hne⟩

/-! ## A pass that goes through -/

/-- An artifact that is rendered counts as changed if one of the same key was kept. -/
lemma changed_eq_of_verdict {d : Draft} {changed : Bool} (h : p.verdict d = .render changed) :
    changed = (p.kept? d.key).isSome := by
  unfold verdict at h
  cases hkept : p.kept? d.key with
  | none =>
    rw [hkept] at h
    exact (Verdict.render.inj h).symm
  | some a =>
    simp only [hkept] at h
    split at h
    · cases h
    · exact (Verdict.render.inj h).symm

lemma line_verdictEvent (p : Pipeline) (d : Draft) :
    (p.verdictEvent d).line =
      if p.isRendered d = true then .rendered d.key (p.kept? d.key).isSome else .reused d.key := by
  cases hverdict : p.verdict d with
  | keep a =>
    rw [verdictEvent, isRendered, hverdict]
    rfl
  | render changed =>
    rw [verdictEvent, isRendered, hverdict, ← changed_eq_of_verdict hverdict]
    rfl

lemma events_of_ok (hok : (p.run memo candidates).outcome = .ok r) :
    (p.run memo candidates).events =
      p.openingEvents ++ (p.survey candidates).events ++
        (p.survey candidates).drafts.map p.verdictEvent ++ r.warnings.map Event.uncovered ++
        (p.removedKeys (p.survey candidates).drafts).map Event.removed ++
        [.finished (p.passes + 1) r.stats] := by
  have hrepeated := (run_eq_ok hok).1
  simp only [run, hrepeated, Except.ok.injEq] at hok ⊢
  subst hok
  rfl

/-- What is logged of the drafts is what the report says of them. -/
lemma map_line_verdictEvent (hok : (p.run memo candidates).outcome = .ok r) :
    ((p.survey candidates).drafts.map p.verdictEvent).map Event.line =
      (p.places candidates).filterMap (p.artifactLine? r) := by
  have hlines : ((p.survey candidates).drafts.map p.verdictEvent).map Event.line =
      (p.survey candidates).drafts.map fun d =>
        if r.isFresh d.key = true then .rendered d.key (p.kept? d.key).isSome
        else .reused d.key := by
    rw [List.map_map]
    refine List.map_congr_left fun d hd => ?_
    rw [Function.comp_apply, line_verdictEvent, isFresh_of_mem_drafts hok hd]
  rw [hlines, survey, (Survey.eq_of_repeated_eq_none (run_eq_ok hok).1).1, ← map_finding_places,
    List.filterMap_map, List.map_filterMap]
  refine List.filterMap_congr fun place _ => ?_
  rw [artifactLine?, key?, Option.map_map]
  rfl

omit [TextHash] in
lemma nodup_removedKeys (p : Pipeline) (drafts : List Draft) : (p.removedKeys drafts).Nodup :=
  (List.mergeSort_perm _ ArtifactKey.le).nodup_iff.2 (p.cache.nodup.filter _)

/-- The keys that are removed are those of kept artifacts that are no outputs. -/
lemma mem_removedKeys_iff (hok : (p.run memo candidates).outcome = .ok r) {key : ArtifactKey} :
    key ∈ p.removedKeys (p.survey candidates).drafts ↔
      (p.kept? key).isSome = true ∧ key ∉ r.outputs.map Output.key := by
  rw [removedKeys, List.mem_mergeSort, List.mem_filter, Table.mem_keys_iff, ← kept?,
    (run_eq_ok hok).2.2.1, mem_keys_afterPass_iff]
  simp

/-! ## A pass that ends in a conflict -/

/-- A pass that ends in a conflict logs the candidates that were skipped before the place of the
conflict. -/
lemma events_of_repeatsAt {place : p.Place candidates} {key : ArtifactKey}
    (hplace : p.RepeatsAt place key)
    (hfirst : ∀ earlier, Place.Before earlier place → ∀ key', ¬ p.RepeatsAt earlier key') :
    (p.run memo candidates).events.map Event.line =
      p.openingEvents.map Event.line ++
        ((p.places candidates).filter fun a => a.Before place).filterMap p.skipLine? := by
  have hrepeated : (p.survey candidates).repeated = some key :=
    repeated_eq_some_iff.2 ⟨place, hplace, hfirst⟩
  obtain ⟨front, back, hsplit⟩ := List.append_of_mem (mem_places place)
  have hsorted := p.pairwise_places candidates
  rw [hsplit] at hsorted
  have hmem : ∀ a, a ∈ front → a.Before place := fun a ha =>
    (mem_front_iff hsorted (List.mem_append_left _ ha)).1 ha
  have hkeys : ((front.map p.finding).filterMap Finding.draft?).map Draft.key =
      front.filterMap p.key? := by
    rw [List.filterMap_map, List.map_filterMap]
    rfl
  -- no key is repeated in front of the place, since it is the first one of its kind
  have hnone : firstRepeated? [] (front.filterMap p.key?) = none := by
    refine firstRepeated?_eq_none_iff.2 ⟨?_, fun _ _ => List.not_mem_nil⟩
    refine (nodup_filterMap_iff (List.pairwise_append.1 hsorted).1).2 ?_
    intro a ha b hb hba key' hkey' hkey
    exact hfirst a (hmem a ha) key' ⟨hkey', b, hba, hkey⟩
  obtain ⟨hkey, earlier, hbefore, hkey'⟩ := hplace
  have hearlier : earlier ∈ front :=
    (mem_front_iff hsorted (hsplit ▸ mem_places earlier)).2 hbefore
  obtain ⟨d, hdraft, hdkey⟩ := Option.map_eq_some_iff.1 hkey
  have hskips : (p.survey candidates).skips = (front.map p.finding).filterMap Finding.skip? := by
    rw [survey, ← map_finding_places, hsplit, List.map_append, List.map_cons]
    refine Survey.skips_of_conflict (hkeys ▸ hnone) hdraft ?_ _
    rw [hkeys, hdkey]
    exact List.mem_filterMap.2 ⟨earlier, hearlier, hkey'⟩
  have hevents : (p.run memo candidates).events =
      p.openingEvents ++ (p.survey candidates).events := by
    simp only [run, hrepeated]
  rw [hevents, List.map_append, Survey.events, List.map_map, hskips, hsplit,
    filter_eq_front hsorted, ← map_line_events]
  rfl

/-! ## The log -/

/-- **The log tells what the report tells.**  At any point of a history, the log of a pass opens
with one line if there are kept artifacts and the latest pass made them under options of another
digest, and with no line otherwise.

If the pass goes through, there follow a line for each candidate that a generator skips, in the
order of the places; a line for each artifact that a generator describes, in the same order, which
says that the artifact is taken over if its output is not fresh, and that it is rendered if it is,
and then whether there was one of the same key before; a line for each warning of the report; one
line for each kept artifact whose key is not that of an output, in whatever order; and a line with
the number of the pass and all that the report has counted.

If the pass ends in a conflict, there follow only the lines about what is skipped before the place
of the conflict. -/
theorem log_exact (hp : p.Created) (history : List Step) (candidates : List Candidate)
    (memo : ScanMemo) :
    let q := p.after history
    let pass := q.run memo candidates
    ∃ opening, p.Opening history opening ∧
      (∀ report, pass.outcome = .ok report →
        (∀ (place : q.Place candidates) key, q.key? place = some key →
          ∃ o, report.find? key = some o) ∧
        pass.pipeline.passes = q.passes + 1 ∧
        ∃ removed : List ArtifactKey, removed.Nodup ∧
          (∀ key, key ∈ removed ↔
            (q.kept? key).isSome = true ∧ key ∉ report.outputs.map Output.key) ∧
          pass.events.map Event.line =
            opening ++ (q.places candidates).filterMap q.skipLine? ++
              (q.places candidates).filterMap (q.artifactLine? report) ++
              report.warnings.map LogLine.warned ++ removed.map LogLine.removed ++
              [.finished pass.pipeline.passes report.stats]) ∧
      ∀ e, pass.outcome = .error e →
        ∃ (place : q.Place candidates) (key : ArtifactKey), e = .repeatedArtifact key ∧
          q.RepeatsAt place key ∧
          (∀ earlier, Place.Before earlier place → ∀ key', ¬ q.RepeatsAt earlier key') ∧
          pass.events.map Event.line =
            opening ++
              ((q.places candidates).filter fun a => a.Before place).filterMap q.skipLine? := by
  intro q pass
  refine ⟨_, opening_openingEvents hp history, fun report hok => ?_, fun e he => ?_⟩
  · obtain ⟨hrepeated, hpipeline, -⟩ := run_eq_ok hok
    have hpasses : pass.pipeline.passes = q.passes + 1 := congrArg Pipeline.passes hpipeline
    refine ⟨fun place key hkey => ?_, hpasses, q.removedKeys (q.survey candidates).drafts,
      q.nodup_removedKeys _, fun key => mem_removedKeys_iff hok, ?_⟩
    · obtain ⟨d, hextract, rfl⟩ := key?_eq_some_iff.1 hkey
      exact ⟨_, find?_of_mem_drafts hok ((mem_drafts_iff hrepeated (d := ⟨_, d⟩)).2
        ⟨List.get_mem _ _, _, List.get_mem _ _, hextract⟩)⟩
    · have hskips : (q.survey candidates).events.map Event.line =
          (q.places candidates).filterMap q.skipLine? := by
        rw [Survey.events, survey, (Survey.eq_of_repeated_eq_none hrepeated).2,
          ← map_finding_places, List.map_map, ← map_line_events]
        rfl
      have hwarnings : (report.warnings.map Event.uncovered).map Event.line =
          report.warnings.map LogLine.warned := List.map_map
      rw [hpasses, events_of_ok hok]
      simp only [List.map_append, hskips, map_line_verdictEvent hok, hwarnings]
      rw [List.map_map]
      rfl
  · obtain ⟨key, hrepeated, rfl⟩ := run_eq_error_iff.1 he
    obtain ⟨place, hplace, hfirst⟩ := repeated_eq_some_iff.1 hrepeated
    exact ⟨place, key, rfl, hplace, hfirst, events_of_repeatsAt hplace hfirst⟩

end Main

/-- Two artifacts are kept that were made under other options.  A pass over one of their candidates
and one that is skipped makes one of them anew and removes the other; a pass in which these two
candidates come twice ends in a conflict. -/
theorem log_exact_outdated :
    let note : Generator := Recipe.generator
      { name := "note", kind := .optionHolder, pattern := "\x7bText\x7d", suffix := "note"
        skips := [("Maybe", .notApplicable)] }
    let c : Candidate := { name := "Lookup" }
    let d : Candidate := { name := "Email" }
    let e : Candidate := { name := "Maybe" }
    let q := (empty {} {}).after
      [⟨.add note, .empty⟩, ⟨.run [c, d], .empty⟩, ⟨.configure { header := false }, .empty⟩]
    (∃ report, (q.run .empty [e, c]).outcome = .ok report ∧ ∃ removed : List ArtifactKey,
      ⟨"note", "Email"⟩ ∈ removed ∧ ⟨"note", "Lookup"⟩ ∉ removed ∧
      (q.run .empty [e, c]).events.map Event.line =
        [.changedOptions 2] ++ (q.places [e, c]).filterMap q.skipLine? ++
          (q.places [e, c]).filterMap (q.artifactLine? report) ++
          report.warnings.map LogLine.warned ++ removed.map LogLine.removed ++
          [.finished 2 report.stats]) ∧
      ∃ place : q.Place [e, c, e, c], q.RepeatsAt place ⟨"note", "Lookup"⟩ ∧
        (q.run .empty [e, c, e, c]).events.map Event.line =
          [.changedOptions 2] ++
            ((q.places [e, c, e, c]).filter fun a => a.Before place).filterMap q.skipLine? := by
  intro note c d e q
  have hcreated : (empty {} {}).Created := .empty {} {}
  have houtdated : (empty {} {}).Outdated
      [⟨.add note, .empty⟩, ⟨.run [c, d], .empty⟩, ⟨.configure { header := false }, .empty⟩] 2 :=
    (outdated_iff hcreated).2 ⟨by decide +kernel, by decide +kernel, by decide⟩
  have hopens {opening} (h : (empty {} {}).Opening
      [⟨.add note, .empty⟩, ⟨.run [c, d], .empty⟩, ⟨.configure { header := false }, .empty⟩]
      opening) : opening = [.changedOptions 2] := by
    cases h with
    | outdated h =>
      rw [← ((outdated_iff hcreated).1 h).2.1, ((outdated_iff hcreated).1 houtdated).2.1]
    | upToDate h => exact absurd houtdated (h 2)
  constructor
  · have hrepeated : (q.survey [e, c]).repeated = none := by decide +kernel
    obtain ⟨⟨warnings, stats, hok⟩, -⟩ := run_of_distinct hrepeated .empty
    obtain ⟨opening, hopening, hlog, -⟩ := log_exact hcreated _ [e, c] .empty
    obtain ⟨-, hpasses, removed, -, hremoved, hlines⟩ := hlog _ hok
    have hkeys : (q.afterPass (q.survey [e, c]).drafts).outputs.map Output.key =
        [⟨"note", "Lookup"⟩] := by decide +kernel
    refine ⟨_, hok, removed, (hremoved _).2 ⟨by decide +kernel, ?_⟩,
      fun h => ((hremoved _).1 h).2 ?_, ?_⟩
    · rw [hkeys]
      decide
    · rw [hkeys]
      exact List.mem_singleton_self _
    · rw [hlines, hopens hopening, hpasses]
      rfl
  · have hrepeated : (q.survey [e, c, e, c]).repeated = some ⟨"note", "Lookup"⟩ := by
      decide +kernel
    obtain ⟨opening, hopening, -, hlog⟩ := log_exact hcreated _ [e, c, e, c] .empty
    obtain ⟨place, key, hkey, hplace, -, hlines⟩ := hlog _ (run_of_repeated hrepeated .empty).1
    cases hkey
    exact ⟨place, hplace, by rw [hlines, hopens hopening]⟩

end Pipeline

end Stencil
