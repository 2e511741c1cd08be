import Mathlib.Data.List.Nodup
import Mathlib.Tactic.Lemma
import Stencil.Pipeline.Pass
import Stencil.Proofs.Table.Contents
import Stencil.Repeated

/-!
# What a pass leaves behind

A survey without a conflict has drafts with distinct keys, so the table that a pass writes holds
one artifact for each draft, in the order of the drafts.  Its outputs are the same artifacts in
the order of their keys.

The main results are

* `Survey.nodup_keys`: the drafts of a survey have distinct keys;
* `Survey.repeated_eq`: a survey looks for the first key that is repeated;
* `Pipeline.kept?_afterPass_iff`: what a pipeline keeps after a pass;
* `Pipeline.outputs_afterPass`: the outputs, one for each draft;
* `Pipeline.run_of_repeated`, `Pipeline.run_of_distinct`: how a pass ends.
-/

namespace Stencil

namespace Finding

/-- The draft that a finding leads to, if there is a descriptor. -/
def draft? (f : Finding) : Option Draft := f.extraction.toOption.map fun d => ⟨f.generator, d⟩

/-- The name of the generator and the reason of a finding, if there is no descriptor. -/
def skip? (f : Finding) : Option (String × Skip) :=
  match f.extraction with
  | .ok _ => none
  | .error reason => some (f.generator.name, reason)

lemma draft?_eq_some_iff {f : Finding} {d : Draft} :
    f.draft? = some d ↔ f = ⟨d.generator, .ok d.descriptor⟩ := by
  obtain ⟨generator, extraction⟩ := f
  obtain ⟨generator', descriptor⟩ := d
  cases extraction <;> simp [draft?, Except.toOption]

/-- A finding has either a draft or a reason for having none. -/
lemma isSome_skip? (f : Finding) : f.skip?.isSome = !f.draft?.isSome := by
  obtain ⟨generator, extraction⟩ := f
  cases extraction <;> rfl

end Finding

namespace Survey

lemma ofFindings_skip {seen : List ArtifactKey} {finding : Finding} {rest : List Finding}
    {reason : Skip} (h : finding.extraction = .error reason) :
    (ofFindings seen (finding :: rest)).drafts = (ofFindings seen rest).drafts := by
  rw [ofFindings, h]

lemma ofFindings_conflict {seen : List ArtifactKey} {finding : Finding} {rest : List Finding}
    {descriptor : Descriptor} (h : finding.extraction = .ok descriptor)
    (hseen : (Draft.mk finding.generator descriptor).key ∈ seen) :
    (ofFindings seen (finding :: rest)).drafts = [] := by
  simp only [ofFindings, h, if_pos hseen]

lemma ofFindings_draft {seen : List ArtifactKey} {finding : Finding} {rest : List Finding}
    {descriptor : Descriptor} (h : finding.extraction = .ok descriptor)
    (hseen : (Draft.mk finding.generator descriptor).key ∉ seen) :
    (ofFindings seen (finding :: rest)).drafts =
      ⟨finding.generator, descriptor⟩ ::
        (ofFindings ((Draft.mk finding.generator descriptor).key :: seen) rest).drafts := by
  simp only [ofFindings, h, if_neg hseen]

/-- A draft comes from a finding with its descriptor. -/
lemma finding_of_mem_drafts {seen : List ArtifactKey} {findings : List Finding} {d : Draft}
    (hd : d ∈ (ofFindings seen findings).drafts) :
    ⟨d.generator, .ok d.descriptor⟩ ∈ findings := by
  induction findings generalizing seen with
  | nil => simp [ofFindings] at hd
  | cons finding rest ih =>
    obtain ⟨generator, extraction⟩ := finding
    cases extraction with
    | error reason =>
      rw [ofFindings_skip rfl] at hd
      exact List.mem_cons_of_mem _ (ih hd)
    | ok descriptor =>
      by_cases hseen : (Draft.mk generator descriptor).key ∈ seen
      · rw [ofFindings_conflict rfl hseen] at hd
        cases hd
      · rw [ofFindings_draft rfl hseen] at hd
        rcases List.mem_cons.1 hd with rfl | hd
        · exact List.mem_cons_self
        · exact List.mem_cons_of_mem _ (ih hd)

/-- The keys of the drafts are distinct, and none of them was seen before. -/
lemma nodup_keys {seen : List ArtifactKey} {findings : List Finding} :
    ((ofFindings seen findings).drafts.map Draft.key).Nodup ∧
      ∀ d ∈ (ofFindings seen findings).drafts, d.key ∉ seen := by
  induction findings generalizing seen with
  | nil => simp [ofFindings]
  | cons finding rest ih =>
    cases hextraction : finding.extraction with
    | error reason =>
      rw [ofFindings_skip hextraction]
      exact ih
    | ok descriptor =>
      by_cases hseen : (Draft.mk finding.generator descriptor).key ∈ seen
      · rw [ofFindings_conflict hextraction hseen]
        simp
      · rw [ofFindings_draft hextraction hseen]
        -- the key of the new draft counts as seen for the drafts behind it
        obtain ⟨hnodup, hnew⟩ := @ih ((Draft.mk finding.generator descriptor).key :: seen)
        constructor
        · rw [List.map_cons, List.nodup_cons, List.mem_map]
          refine ⟨?_, hnodup⟩
          rintro ⟨d, hd, hkey⟩
          exact hnew d hd (hkey ▸ List.mem_cons_self)
        · intro d hd
          rcases List.mem_cons.1 hd with rfl | hd
          · exact hseen
          · exact fun h => hnew d hd (List.mem_cons_of_mem _ h)

/-- Findings without a conflict are sorted out one by one. -/
theorem eq_of_repeated_eq_none {seen : List ArtifactKey} {findings : List Finding}
    (h : (ofFindings seen findings).repeated = none) :
    (ofFindings seen findings).drafts = findings.filterMap Finding.draft? ∧
      (ofFindings seen findings).skips = findings.filterMap Finding.skip? := by
  induction findings generalizing seen with
  | nil => exact ⟨rfl, rfl⟩
  | cons finding rest ih =>
    obtain ⟨generator, extraction⟩ := finding
    cases extraction with
    | error reason =>
      obtain ⟨hdrafts, hskips⟩ := @ih seen h
      exact ⟨hdrafts, congrArg ((generator.name, reason) :: ·) hskips⟩
    | ok descriptor =>
      by_cases hseen : (Draft.mk generator descriptor).key ∈ seen
      · simp [ofFindings, hseen] at h
      · simp only [ofFindings, if_neg hseen] at h ⊢
        obtain ⟨hdrafts, hskips⟩ := ih h
        exact ⟨congrArg (⟨generator, descriptor⟩ :: ·) hdrafts, hskips⟩

/-- A survey looks for the first key that is repeated among the drafts that findings lead to. -/
theorem repeated_eq (seen : List ArtifactKey) (findings : List Finding) :
    (ofFindings seen findings).repeated =
      firstRepeated? seen ((findings.filterMap Finding.draft?).map Draft.key) := by
  induction findings generalizing seen with
  | nil => rfl
  | cons finding rest ih =>
    obtain ⟨generator, extraction⟩ := finding
    cases extraction with
    | error reason => exact ih seen
    | ok descriptor =>
      have hdraft : Finding.draft? ⟨generator, .ok descriptor⟩ = some ⟨generator, descriptor⟩ := rfl
      rw [List.filterMap_cons_some hdraft, List.map_cons, firstRepeated?]
      by_cases hseen : (Draft.mk generator descriptor).key ∈ seen
      · simp only [ofFindings, if_pos hseen]
      · simp only [ofFindings, if_neg hseen]
        exact ih _

end Survey

namespace Pipeline

variable {p : Pipeline} {candidates : List Candidate} {d : Draft}

/-- Names are distinct, so that a name tells the generator. -/
lemma eq_of_name_eq {g g' : Generator} (hg : g ∈ p.generators) (hg' : g' ∈ p.generators)
    (hname : g.name = g'.name) : g = g' :=
  List.inj_on_of_nodup_map p.distinct hg hg' hname

/-- A draft is what one of the generators says about one of the candidates. -/
lemma extract_of_mem_drafts (hd : d ∈ (p.survey candidates).drafts) :
    d.generator ∈ p.generators ∧
      ∃ c ∈ candidates, d.generator.extract c p.options = .ok d.descriptor := by
  have hfinding := Survey.finding_of_mem_drafts hd
  obtain ⟨c, hc, hg⟩ := List.mem_flatMap.1 hfinding
  obtain ⟨g, hmem, heq⟩ := List.mem_map.1 hg
  rw [Finding.mk.injEq] at heq
  obtain ⟨rfl, hextract⟩ := heq
  exact ⟨hmem, c, hc, hextract⟩

/-- Without a conflict there is a draft for each candidate that one of the generators describes an
artifact for. -/
theorem mem_drafts_iff (h : (p.survey candidates).repeated = none) :
    d ∈ (p.survey candidates).drafts ↔
      d.generator ∈ p.generators ∧
        ∃ c ∈ candidates, d.generator.extract c p.options = .ok d.descriptor := by
  refine ⟨extract_of_mem_drafts, ?_⟩
  rintro ⟨hg, c, hc, hextract⟩
  rw [survey, (Survey.eq_of_repeated_eq_none h).1, List.mem_filterMap]
  refine ⟨⟨d.generator, .ok d.descriptor⟩, ?_, Finding.draft?_eq_some_iff.2 rfl⟩
  exact List.mem_flatMap.2 ⟨c, hc, List.mem_map.2 ⟨d.generator, hg, by rw [hextract]⟩⟩

/-- The drafts of a pass in the order of their outputs have pairwise different keys. -/
lemma pairwise_key_ne (candidates : List Candidate) :
    ((p.survey candidates).drafts.mergeSort fun d e => d.key.le e.key).Pairwise
      fun d e => d.key ≠ e.key := by
  have hnodup : ((p.survey candidates).drafts.map Draft.key).Nodup := Survey.nodup_keys.1
  have hperm := List.mergeSort_perm (p.survey candidates).drafts fun d e => d.key.le e.key
  exact List.pairwise_map.1 ((hperm.map Draft.key).nodup_iff.2 hnodup)

variable [TextHash]

/-! ## The artifact of a draft -/

/-- A draft becomes a kept artifact of an equal descriptor if the options are the same; else the
artifact is made. -/
lemma artifact_cases (p : Pipeline) (d : Draft) :
    (∃ a, p.kept? d.key = some a ∧ p.isCurrent = true ∧ (a.descriptor == d.descriptor) = true ∧
        p.artifact d = { a with fresh := false }) ∨
      p.artifact d = d.render p.options.filler := by
  unfold artifact verdict
  cases hkept : p.kept? d.key with
  | none => exact Or.inr rfl
  | some a =>
    by_cases hsame : (p.isCurrent && a.descriptor == d.descriptor) = true
    · rw [Bool.and_eq_true] at hsame
      refine Or.inl ⟨a, rfl, hsame.1, hsame.2, ?_⟩
      simp [hsame.1, hsame.2]
    · right
      simp [hsame]

/-- A kept artifact is taken over exactly if it was made from an equal descriptor under the present
options. -/
lemma verdict_eq_keep_iff {a : Artifact} :
    p.verdict d = .keep a ↔
      p.kept? d.key = some a ∧ p.isCurrent = true ∧ (a.descriptor == d.descriptor) = true := by
  unfold verdict
  cases hkept : p.kept? d.key with
  | none => simp
  | some a' =>
    by_cases hsame : (p.isCurrent && a'.descriptor == d.descriptor) = true
    · rw [Bool.and_eq_true] at hsame
      constructor
      · intro h
        simp only [hsame, Bool.and_self, if_true, Verdict.keep.injEq] at h
        subst h
        exact ⟨rfl, hsame⟩
      · rintro ⟨hsome, -⟩
        obtain rfl : a' = a := Option.some.inj hsome
        simp [hsame]
    · constructor
      · intro h
        simp [hsame] at h
      · rintro ⟨hsome, hcurrent, heq⟩
        obtain rfl : a' = a := Option.some.inj hsome
        exact absurd (by rw [hcurrent, heq]; rfl) hsame

/-- The artifacts that are not fresh are those that are taken over. -/
lemma fresh_artifact_eq_false_iff :
    (p.artifact d).fresh = false ↔ ∃ a, p.verdict d = .keep a := by
  unfold artifact
  cases p.verdict d with
  | keep a => simp
  | render changed => simp [Draft.render]

lemma artifact_of_keep {a : Artifact} (h : p.verdict d = .keep a) :
    p.artifact d = { a with fresh := false } := by
  rw [artifact, h]

lemma isRendered_of_keep {a : Artifact} (h : p.verdict d = .keep a) : p.isRendered d = false := by
  rw [isRendered, h]

/-- What is not taken over is made anew. -/
lemma artifact_of_isRendered (h : p.isRendered d = true) :
    p.artifact d = d.render p.options.filler := by
  unfold isRendered at h
  unfold artifact
  cases hverdict : p.verdict d with
  | keep a => simp [hverdict] at h
  | render changed => rfl

/-! ## The kept artifacts -/

lemma entries_afterPass :
    (p.afterPass (p.survey candidates).drafts).cache.entries =
      (p.survey candidates).drafts.map fun d => (d.key, p.artifact d) := by
  refine Table.entries_putAll_empty ?_
  rw [List.map_map]
  exact Survey.nodup_keys.1

/-- After a pass the pipeline keeps the artifacts of the drafts and nothing else. -/
theorem kept?_afterPass_iff {key : ArtifactKey} {a : Artifact} :
    (p.afterPass (p.survey candidates).drafts).kept? key = some a ↔
      ∃ d ∈ (p.survey candidates).drafts, d.key = key ∧ p.artifact d = a := by
  rw [kept?, ← Table.mem_entries_iff, entries_afterPass, List.mem_map]
  simp only [Prod.mk.injEq]

/-- The outputs of a pass are the artifacts of the drafts in the order of their keys. -/
theorem outputs_afterPass :
    (p.afterPass (p.survey candidates).drafts).outputs =
      ((p.survey candidates).drafts.mergeSort fun d e => d.key.le e.key).map fun d =>
        Output.ofArtifact d.key (p.artifact d) := by
  -- sorting by a key commutes with a map that keeps the key
  have hsort := List.map_mergeSort (f := fun d : Draft => (d.key, p.artifact d))
    (r := fun d e => d.key.le e.key) (s := fun a b => a.1.le b.1)
    (l := (p.survey candidates).drafts) fun _ _ _ _ => rfl
  rw [outputs, entries_afterPass, ← hsort, List.map_map]
  rfl

/-! ## How a pass ends -/

lemma run_of_repeated {key : ArtifactKey} (h : (p.survey candidates).repeated = some key)
    (memo : ScanMemo) :
    (p.run memo candidates).outcome = .error (.repeatedArtifact key) ∧
      (p.run memo candidates).pipeline = p := by
  simp [run, h]

lemma run_of_distinct (h : (p.survey candidates).repeated = none) (memo : ScanMemo) :
    (∃ warnings stats, (p.run memo candidates).outcome =
        .ok ⟨(p.afterPass (p.survey candidates).drafts).outputs, warnings, stats⟩) ∧
      (p.run memo candidates).pipeline = p.afterPass (p.survey candidates).drafts := by
  simp [run, h]

/-- What a pass that went through reports and leaves behind. -/
lemma run_eq_ok {memo : ScanMemo} {r : Report} (h : (p.run memo candidates).outcome = .ok r) :
    (p.survey candidates).repeated = none ∧
      (p.run memo candidates).pipeline = p.afterPass (p.survey candidates).drafts ∧
      r.outputs = (p.afterPass (p.survey candidates).drafts).outputs ∧
      r.stats.generated = ((p.survey candidates).drafts.filter p.isRendered).length ∧
      r.stats.reused = ((p.survey candidates).drafts.filter fun d => !p.isRendered d).length ∧
      r.stats.removed = (p.removedKeys (p.survey candidates).drafts).length := by
  cases hrepeated : (p.survey candidates).repeated with
  | some key =>
    rw [(run_of_repeated hrepeated memo).1] at h
    cases h
  | none =>
    refine ⟨rfl, (run_of_distinct hrepeated memo).2, ?_⟩
    simp only [run, hrepeated, Except.ok.injEq] at h
    subst h
    exact ⟨rfl, rfl, rfl, rfl⟩

end Pipeline

end Stencil
