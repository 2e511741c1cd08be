import Stencil.Digest.Xxh64
import Stencil.Generator.Recipe
import Stencil.Proofs.Pattern.Inert
import Stencil.Proofs.Pattern.Splice
import Stencil.Proofs.Pipeline.Accounting
import Stencil.Proofs.Pipeline.Journal

/-!
# Warnings about open holes

A pass warns of the fresh outputs whose patterns have holes that nothing is bound to, and of nothing
else.  The warnings come in the order in which the pass goes through candidates and generators, not
in that of the outputs.  What the pass finds remembered makes no difference, as long as patterns
that are scanned have different hashes.

A hole that is bound to an explicit absence is not open: it is filled with the empty text.  So an
output without a warning is its pattern with all holes filled.

The main results are

* `Pipeline.warnings_eq_due`: the warnings of a pass, candidate by candidate;
* `Pipeline.exists_warning_iff`: which drafts there is a warning about;
* `Pipeline.warnings_exact`: what warnings say about the outputs.
-/

namespace Stencil

/-- The holes of the pattern of a draft, in the order of the pattern, that nothing is bound to, not
even an explicit absence. -/
def Draft.openHoles (d : Draft) (style : Style) : List Placeholder :=
  (Placeholder.scan style.defaultBound d.pattern).filter fun hole =>
    d.descriptor.bindings.get? hole.name = none

/-- Whether the output of a key is fresh. -/
def Report.isFresh (r : Report) (key : ArtifactKey) : Bool := (r.find? key).any Output.fresh

/-- A report warns of an output. -/
def Report.WarnsOf (r : Report) (key : ArtifactKey) : Prop := ∃ w ∈ r.warnings, w.key = key

namespace Pipeline

/-- The warning that is due about what a generator describes for a candidate: there is one if the
output is fresh and its pattern has open holes. -/
def due? (p : Pipeline) (r : Report) (c : Candidate) (g : Generator) : Option Warning :=
  match g.extract c p.options with
  | .error _ => none
  | .ok descriptor =>
    let d : Draft := ⟨g, descriptor⟩
    if r.isFresh d.key = true ∧ d.openHoles p.options.style ≠ [] then
      some ⟨d.key, d.openHoles p.options.style⟩
    else none

variable {p : Pipeline} {d : Draft}

lemma missing_eq_openHoles (p : Pipeline) (d : Draft) :
    (Coverage.between (p.options.filler.placeholders d.pattern) d.descriptor.bindings).missing =
      d.openHoles p.options.style :=
  Coverage.missing_between

lemma warning?_eq (p : Pipeline) (d : Draft) :
    p.warning? d =
      if d.openHoles p.options.style ≠ [] then some ⟨d.key, d.openHoles p.options.style⟩
      else none := by
  rw [warning?, missing_eq_openHoles, Coverage.isComplete, missing_eq_openHoles]
  cases d.openHoles p.options.style <;> rfl

section Main

variable [TextHash]

variable {memo : ScanMemo} {candidates : List Candidate} {texts : Set String} {r : Report}

lemma find?_of_mem_drafts (hok : (p.run memo candidates).outcome = .ok r)
    (hd : d ∈ (p.survey candidates).drafts) :
    r.find? d.key = some (Output.ofArtifact d.key (p.artifact d)) := by
  obtain ⟨-, -, houtputs, -⟩ := run_eq_ok hok
  have hkeys : (r.outputs.map Output.key).Nodup := houtputs ▸ nodup_keys_outputs_afterPass
  rw [Report.find?_eq_some_iff hkeys, houtputs, outputs_afterPass]
  exact ⟨List.mem_map.2 ⟨d, List.mem_mergeSort.2 hd, rfl⟩, rfl⟩

/-- The outputs that are fresh are those of the drafts that are made anew. -/
lemma isFresh_of_mem_drafts (hok : (p.run memo candidates).outcome = .ok r)
    (hd : d ∈ (p.survey candidates).drafts) : r.isFresh d.key = p.isRendered d := by
  rw [Report.isFresh, find?_of_mem_drafts hok hd, Option.any_some]
  exact fresh_artifact p d

/-- The warnings of a pass are those about the drafts that are made anew. -/
lemma warnings_eq_filterMap (hinj : Set.InjOn TextHash.hash texts) (h : memo.Holds texts)
    (hvalidate : p.config.validateCoverage = true)
    (hscans : ∀ text ∈ p.scans (.run candidates), text ∈ texts)
    (hok : (p.run memo candidates).outcome = .ok r) :
    r.warnings = ((p.survey candidates).drafts.filter p.isRendered).filterMap p.warning? := by
  rw [(run_memo h hinj hscans).2 r hok, audited, if_pos ⟨hvalidate, (run_eq_ok hok).1⟩]

/-- What is due about a finding is the warning about its draft, if that is made anew. -/
lemma due?_eq (hok : (p.run memo candidates).outcome = .ok r) {c : Candidate}
    (hc : c ∈ candidates) {g : Generator} (hg : g ∈ p.generators) :
    p.due? r c g = (Finding.mk g (g.extract c p.options)).draft?.bind fun d =>
      if p.isRendered d = true then p.warning? d else none := by
  unfold due?
  cases hextract : g.extract c p.options with
  | error reason => rfl
  | ok descriptor =>
    have hd : (⟨g, descriptor⟩ : Draft) ∈ (p.survey candidates).drafts :=
      (mem_drafts_iff (run_eq_ok hok).1).2 ⟨hg, c, hc, hextract⟩
    show (if r.isFresh (Draft.mk g descriptor).key = true ∧ _ then _ else _) =
      if p.isRendered ⟨g, descriptor⟩ = true then _ else _
    rw [isFresh_of_mem_drafts hok hd, warning?_eq]
    cases p.isRendered ⟨g, descriptor⟩ <;> simp

/-- The warnings are those that are due, candidate by candidate and generator by generator. -/
theorem warnings_eq_due (hinj : Set.InjOn TextHash.hash texts) (h : memo.Holds texts)
    (hvalidate : p.config.validateCoverage = true)
    (hscans : ∀ text ∈ p.scans (.run candidates), text ∈ texts)
    (hok : (p.run memo candidates).outcome = .ok r) :
    r.warnings = candidates.flatMap fun c => p.generators.filterMap (p.due? r c) := by
  rw [warnings_eq_filterMap hinj h hvalidate hscans hok, List.filterMap_filter, survey,
    (Survey.eq_of_repeated_eq_none (run_eq_ok hok).1).1, List.filterMap_filterMap, findings,
    List.filterMap_flatMap]
  refine List.flatMap_congr fun c hc => ?_
  rw [List.filterMap_map]
  exact List.filterMap_congr fun g hg => (due?_eq hok hc hg).symm

/-- There is a warning about a draft exactly if it is made anew and has open holes. -/
theorem exists_warning_iff (hinj : Set.InjOn TextHash.hash texts) (h : memo.Holds texts)
    (hvalidate : p.config.validateCoverage = true)
    (hscans : ∀ text ∈ p.scans (.run candidates), text ∈ texts)
    (hok : (p.run memo candidates).outcome = .ok r) (hd : d ∈ (p.survey candidates).drafts) :
    r.WarnsOf d.key ↔ p.isRendered d = true ∧ d.openHoles p.options.style ≠ [] := by
  rw [Report.WarnsOf, warnings_eq_filterMap hinj h hvalidate hscans hok]
  simp only [List.mem_filterMap, List.mem_filter, warning?_eq]
  constructor
  · rintro ⟨w, ⟨d', ⟨hd', hrendered⟩, hwarning⟩, hkey⟩
    rw [Option.ite_none_right_eq_some] at hwarning
    obtain ⟨hopen, hwarning⟩ := hwarning
    obtain rfl := Option.some.inj hwarning
    obtain rfl : d' = d := List.inj_on_of_nodup_map Survey.nodup_keys.1 hd' hd hkey
    exact ⟨hrendered, hopen⟩
  · rintro ⟨hrendered, hopen⟩
    exact ⟨_, ⟨d, ⟨hd, hrendered⟩, if_pos hopen⟩, rfl⟩

/-- A draft that is made anew is filled by the filler of the options. -/
lemma bytes_text_of_isRendered (h : p.isRendered d = true) :
    Text.bytes (p.artifact d).text =
      splice (Placeholder.filling d.descriptor.bindings) (Text.bytes d.pattern) 0
        (Placeholder.scan p.options.style.defaultBound d.pattern) := by
  rw [artifact_of_isRendered h]
  exact p.options.filler.bytes_fill d.descriptor.bindings d.pattern

/-- **Warnings are exact.**  At any point of a history of a workspace, with validation and as long
as patterns that are scanned have different hashes, a pass that goes through has the warnings that
are due, candidate by candidate and generator by generator.  There is none about an output that is
not fresh.  The text of a fresh one is its pattern with each hole filled or left as it is written;
there is no warning about it exactly if all of them are bound, and then each is filled with what its
name is bound to. -/
theorem warnings_exact (hinj : Set.InjOn TextHash.hash texts) (hp : Workspace.Reaches texts p memo)
    (hvalidate : p.config.validateCoverage = true)
    (hscans : ∀ text ∈ p.scans (.run candidates), text ∈ texts)
    (hok : (p.run memo candidates).outcome = .ok r) :
    (r.warnings = candidates.flatMap fun c => p.generators.filterMap (p.due? r c)) ∧
      ∀ o ∈ r.outputs, ∃ g ∈ p.generators, ∃ c ∈ candidates, ∃ d,
        g.extract c p.options = .ok d ∧ o.key = ⟨g.name, d.identity⟩ ∧
          (o.fresh = false → ¬ r.WarnsOf o.key) ∧
          (o.fresh = true →
            let holes := Placeholder.scan p.options.style.defaultBound (g.pattern d)
            Text.bytes o.text =
                splice (Placeholder.filling d.bindings) (Text.bytes (g.pattern d)) 0 holes ∧
              (¬ r.WarnsOf o.key ↔ ∀ hole ∈ holes, d.bindings.get? hole.name ≠ none) ∧
              (¬ r.WarnsOf o.key →
                Text.bytes o.text =
                  splice (fun hole => ((d.bindings.get? hole.name).join).getD "")
                    (Text.bytes (g.pattern d)) 0 holes)) := by
  have hmemo := hp.holds hinj
  refine ⟨warnings_eq_due hinj hmemo hvalidate hscans hok, fun o ho => ?_⟩
  obtain ⟨hrepeated, -, houtputs, -⟩ := run_eq_ok hok
  rw [houtputs, outputs_afterPass] at ho
  obtain ⟨d, hd, rfl⟩ := List.mem_map.1 ho
  rw [List.mem_mergeSort] at hd
  obtain ⟨hg, c, hc, hextract⟩ := (mem_drafts_iff hrepeated).1 hd
  have hwarns := exists_warning_iff hinj hmemo hvalidate hscans hok hd
  have hfresh : (Output.ofArtifact d.key (p.artifact d)).fresh = p.isRendered d :=
    fresh_artifact p d
  refine ⟨d.generator, hg, c, hc, d.descriptor, hextract, rfl, fun hreused hwarn => ?_,
    fun hrendered => ?_⟩
  · rw [hfresh] at hreused
    exact Bool.false_ne_true (hreused.symm.trans (hwarns.1 hwarn).1)
  · rw [hfresh] at hrendered
    have hbound : ¬ r.WarnsOf d.key ↔
        ∀ hole ∈ Placeholder.scan p.options.style.defaultBound d.pattern,
          d.descriptor.bindings.get? hole.name ≠ none := by
      rw [hwarns, not_and_not_right, forall_prop_of_true hrendered, Draft.openHoles,
        List.filter_eq_nil_iff]
      simp
    have htext := bytes_text_of_isRendered hrendered
    refine ⟨htext, hbound, fun hwarn => htext.trans (splice_congr fun hole hhole => ?_)⟩
    obtain ⟨value, hvalue⟩ := Option.ne_none_iff_exists'.1 (hbound.1 hwarn hole hhole)
    rw [Placeholder.filling, Bindings.replacement?, hvalue]
    rfl

end Main

/-- Two pipelines of different styles share a memo.  One of them has run a pass over a candidate,
and runs another one over two: one pattern has a hole twice that nothing is bound to, the other one
has a hole that is bound to an absence.  Two of the outputs are fresh, and there is a warning about
one of these. -/
theorem warnings_exact_note :
    let note : Generator := Recipe.generator
      { name := "note", kind := .optionHolder, suffix := "note"
        pattern := "\x7bText\x7d, \x7bName\x7d: \x7bText\x7d" }
    let label : Generator := Recipe.generator
      { name := "label", kind := .optionHolder, suffix := "label", values := [("Text", none)]
        pattern := "\x7bName\x7d\x7bText\x7d" }
    let c : Candidate := { name := "Lookup" }
    let d : Candidate := { name := "Maybe" }
    let texts : Set String := {text | text ∈ ["\x7bText\x7d, \x7bName\x7d: \x7bText\x7d",
      "\x7bName\x7d\x7bText\x7d"]}
    ∃ (p : Pipeline) (memo : ScanMemo) (r : Report), p.generators = [note, label] ∧
      Set.InjOn TextHash.hash texts ∧ Workspace.Reaches texts p memo ∧
      p.config.validateCoverage = true ∧ (∀ text ∈ p.scans (.run [d, c]), text ∈ texts) ∧
      (p.run memo [d, c]).outcome = .ok r ∧ r.stats.generated = 2 ∧ r.stats.reused = 2 ∧
      r.warnings.map (fun w => (w.key, w.names)) = [(⟨"note", "Maybe"⟩, ["Text", "Text"])] ∧
      (r.warnings = [d, c].flatMap fun c => p.generators.filterMap (p.due? r c)) ∧
      ∀ o ∈ r.outputs, o.fresh = false → ¬ r.WarnsOf o.key := by
  intro note label c d texts
  let p : Pipeline := { empty {} {} with generators := [note, label], distinct := by decide }
  let other := p.run .empty [c]
  let own := (p.configure { style := .simple }).run other.memo [c]
  have hreaches : Workspace.Reaches texts own.pipeline own.memo :=
    ⟨[p.configure { style := .simple }, p], true, [⟨1, .run [c]⟩, ⟨0, .run [c]⟩], 0, rfl,
      by decide +kernel⟩
  have hhash : ∀ s ∈ ["\x7bText\x7d, \x7bName\x7d: \x7bText\x7d", "\x7bName\x7d\x7bText\x7d"],
      ∀ t ∈ ["\x7bText\x7d, \x7bName\x7d: \x7bText\x7d", "\x7bName\x7d\x7bText\x7d"],
        TextHash.hash s = TextHash.hash t → s = t := by decide +kernel
  have hinj : Set.InjOn TextHash.hash texts := fun s hs t ht h => hhash s hs t ht h
  have hvalidate : own.pipeline.config.validateCoverage = true := by decide +kernel
  have hscans : ∀ text ∈ own.pipeline.scans (.run [d, c]), text ∈ texts := by decide +kernel
  have hrepeated : (own.pipeline.survey [d, c]).repeated = none := by decide +kernel
  have hgenerators : own.pipeline.generators = [note, label] :=
    generators_run (p.configure { style := .simple }) other.memo [c]
  obtain ⟨r, hok⟩ : ∃ r, (own.pipeline.run own.memo [d, c]).outcome = .ok r := by
    obtain ⟨⟨warnings, stats, hok⟩, -⟩ := run_of_distinct hrepeated own.memo
    exact ⟨_, hok⟩
  obtain ⟨-, -, -, hgenerated, hreused, -⟩ := run_eq_ok hok
  have hwarnings : r.warnings.map (fun w => (w.key, w.names)) =
      [(⟨"note", "Maybe"⟩, ["Text", "Text"])] := by
    rw [warnings_eq_filterMap hinj (hreaches.holds hinj) hvalidate hscans hok]
    decide +kernel
  obtain ⟨hdue, houtputs⟩ := warnings_exact hinj hreaches hvalidate hscans hok
  refine ⟨own.pipeline, own.memo, r, hgenerators, hinj, hreaches, hvalidate, hscans, hok,
    hgenerated.trans (by decide +kernel), hreused.trans (by decide +kernel), hwarnings, hdue,
    fun o ho hfresh => ?_⟩
  obtain ⟨g, -, c', -, d', -, -, hnone, -⟩ := houtputs o ho
  exact hnone hfresh

end Pipeline

end Stencil
