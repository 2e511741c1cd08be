import Stencil.Digest.Xxh64
import Stencil.Generator.Recipe
import Stencil.Proofs.Generator.Contents
import Stencil.Proofs.Pipeline.History
import Stencil.Proofs.Pipeline.Warnings

/-!
# The built-in generators leave no hole

A descriptor of a built-in generator is bound to all that its pattern has holes for, and to the
version of the patterns, which no pattern shows.  The same is true of the snippets that go into it.
So the patterns are filled to the last hole, and no pass of the built-in generators warns.

The main results are

* `Marker.between_descriptor`, `Part.isComplete_of_mem_contents`: descriptors and their parts;
* `Generator.coverage_exact`: the built-in generators leave no hole, in no history.
-/

namespace Stencil

variable {c : Candidate} {o : Options}

/-- The only key of a descriptor without a hole is that of the version of the patterns. -/
theorem Marker.between_descriptor (c : Candidate) (o : Options) (m : Marker) :
    Coverage.between (Placeholder.scan o.filler.bound (m.descriptor c o).kind.pattern)
      (m.descriptor c o).bindings = ⟨[], ["PatternVersion"]⟩ :=
  (Kind.asksFor _).between_eq (perm_keys_descriptor c o m) o.style

/-- A part of a descriptor has no hole left. -/
theorem Part.isComplete_of_mem_contents {m : Marker} {entry : Key × Content}
    (hentry : entry ∈ m.contents c o) {part : Part} (hpart : part ∈ entry.2.partList) :
    (Coverage.between (Placeholder.scan o.filler.bound part.snippet.pattern)
      part.bindings).isComplete = true := by
  have hkeys := Marker.keys_subset_of_mem_contents hentry hpart
  have hmissing := part.snippet.asksFor.missing_eq_nil hkeys o.style
  rw [Coverage.isComplete, List.isEmpty_iff]
  exact hmissing

namespace Pipeline

variable {p : Pipeline} {candidates : List Candidate}

/-- There is nothing to warn of in a draft of a built-in generator. -/
lemma warning?_eq_none {d : Draft} (hg : d.generator ∈ Generator.defaults)
    (h : d.generator.extract c p.options = .ok d.descriptor) : p.warning? d = none := by
  obtain ⟨family, hfamily⟩ := Generator.mem_defaults_iff_family.1 hg
  rw [hfamily] at h
  obtain ⟨m, -, -, hd, hpattern⟩ := Family.exists_marker h
  have hcoverage : Coverage.between (p.options.filler.placeholders d.pattern)
      d.descriptor.bindings = ⟨[], ["PatternVersion"]⟩ := by
    rw [Draft.pattern, hfamily, hpattern, hd]
    exact Marker.between_descriptor c p.options m
  rw [warning?, hcoverage]
  rfl

lemma filterMap_warning?_audited [TextHash] (hg : ∀ g ∈ p.generators, g ∈ Generator.defaults)
    (candidates : List Candidate) : (p.audited candidates).filterMap p.warning? = [] := by
  rw [List.filterMap_eq_nil_iff]
  intro d hd
  have hdrafts : d ∈ (p.survey candidates).drafts := by
    unfold audited at hd
    split at hd
    · exact List.mem_of_mem_filter hd
    · cases hd
  obtain ⟨hmem, c, -, hextract⟩ := extract_of_mem_drafts hdrafts
  exact warning?_eq_none (hg _ hmem) hextract

end Pipeline

namespace Generator

section Main

variable [TextHash]

/-- **The built-in generators leave no hole.**  What they describe is bound to all that the pattern
has holes for and, beside that, to the version of the patterns only; and each part that is filled
for it is filled to its last hole.  In every history of every workspace, in which no two patterns
that are scanned have the same hash, a pipeline with no other generators never warns. -/
theorem coverage_exact :
    (∀ g ∈ defaults, ∀ (c : Candidate) (o : Options) (d : Descriptor), g.extract c o = .ok d →
      Coverage.between (Placeholder.scan o.filler.bound (g.pattern d)) d.bindings =
          ⟨[], ["PatternVersion"]⟩ ∧
        ∃ m : Marker, g = m.family.generator ∧ c.markersIn m.family = [m] ∧
          d.bindings.table.entries =
            (m.contents c o).map (fun entry => (entry.1, entry.2.value o.filler)) ∧
          ∀ entry ∈ m.contents c o, ∀ part ∈ entry.2.partList,
            (Coverage.between (Placeholder.scan o.filler.bound part.snippet.pattern)
              part.bindings).isComplete = true) ∧
    ∀ (pipelines : List Pipeline) (shared : Bool) (history : List Workspace.Request),
      let w := Workspace.ofPipelines pipelines shared
      Set.InjOn TextHash.hash {text | text ∈ w.scanned history} →
      ∀ e ∈ w.journal history,
        (∀ p, e.after.pipelines[e.request.index]? = some p → ∀ g ∈ p.generators, g ∈ defaults) →
        ∀ reply report, e.reply = some reply → reply.answer = .ran (.ok report) →
          report.warnings = [] := by
  constructor
  · intro g hg c o d h
    obtain ⟨family, rfl⟩ := mem_defaults_iff_family.1 hg
    obtain ⟨m, rfl, hmarkers, rfl, hpattern⟩ := Family.exists_marker h
    refine ⟨?_, m, rfl, hmarkers, m.entries_descriptor c o, ?_⟩
    · rw [hpattern]
      exact m.between_descriptor c o
    · exact fun entry hentry part hpart => Part.isComplete_of_mem_contents hentry hpart
  · intro pipelines shared history w hinj e he hdefaults reply report hreply hreport
    obtain ⟨p, memo, candidates, hafter, hwarnings⟩ :=
      Workspace.warnings_of_mem_journal (Workspace.remembers_ofPipelines _ pipelines shared) hinj
        (fun _ htext => htext) he hreply hreport
    have hgenerators : ∀ g ∈ p.generators, g ∈ defaults := by
      rw [← p.generators_run memo candidates]
      exact hdefaults _ hafter
    rw [hwarnings]
    exact Pipeline.filterMap_warning?_audited hgenerators candidates

end Main

/-- Two pipelines share a memo, and one of them fills patterns of its own with open holes; the other
one has user text with braces in it. -/
theorem coverage_exact_shared :
    let note : Generator := Recipe.generator
      { name := "note", kind := .optionHolder, pattern := "\x7bName\x7d: \x7bText\x7d"
        suffix := "note" }
    let c : Candidate :=
      { name := "Lookup", markers := [.holder (.cases ["u8", "\x7bIndex\x7d"]), .sequenceCollector],
        sequences := [{ name := "ids" }] }
    let w := Workspace.ofPipelines [.empty {} {}, .withDefaults {} {}] true
    let history : List Workspace.Request :=
      [⟨0, .add note⟩, ⟨0, .run [c]⟩, ⟨1, .configure { style := .simple }⟩, ⟨1, .run [c]⟩]
    (∃ d, Holder.generator.extract c {} = .ok d ∧
        Coverage.between (Placeholder.scan (Options.filler {}).bound (Holder.generator.pattern d))
          d.bindings = ⟨[], ["PatternVersion"]⟩) ∧
      Set.InjOn TextHash.hash {text | text ∈ w.scanned history} ∧
      ∃ e ∈ w.journal history,
        (∀ p, e.after.pipelines[e.request.index]? = some p → ∀ g ∈ p.generators, g ∈ defaults) ∧
        ∃ reply report, e.reply = some reply ∧ reply.answer = .ran (.ok report) ∧
          report.warnings = [] := by
  intro note c w history
  have hname : isTypeName c.name = true := by decide +kernel
  have hsound : Holder.Sound (.cases ["u8", "\x7bIndex\x7d"]) := by
    unfold Holder.Sound
    decide
  have hextract : Holder.generator.extract c {} = .ok (Holder.descriptor c {} _) :=
    Holder.extract_eq_ok_iff.2 ⟨hname, _, rfl, hsound, rfl⟩
  have hhash : ∀ s ∈ w.scanned history, ∀ t ∈ w.scanned history,
      TextHash.hash s = TextHash.hash t → s = t := by decide +kernel
  have hinj : Set.InjOn TextHash.hash {text | text ∈ w.scanned history} :=
    fun s hs t ht h => hhash s hs t ht h
  obtain ⟨hdescriptors, hhistories⟩ := coverage_exact
  refine ⟨⟨_, hextract, (hdescriptors _ List.mem_cons_self c {} _ hextract).1⟩, hinj, ?_⟩
  let p := (Pipeline.withDefaults {} {}).configure { style := .simple }
  -- the last entry of the journal is the pass of the second pipeline
  obtain ⟨e, he, memo, hreply, hafter⟩ : ∃ e ∈ w.journal history, ∃ memo,
      e.reply = some ⟨.ran (p.run memo [c]).outcome, (p.run memo [c]).events⟩ ∧
        e.after.pipelines[e.request.index]? = some (p.run memo [c]).pipeline :=
    ⟨_, List.mem_cons_of_mem _ (List.mem_cons_of_mem _ (List.mem_cons_of_mem _
      List.mem_cons_self)), _, rfl, rfl⟩
  have hdefaults : ∀ q, e.after.pipelines[e.request.index]? = some q →
      ∀ g ∈ q.generators, g ∈ defaults := by
    intro q hq
    obtain rfl : (p.run memo [c]).pipeline = q := Option.some.inj (hafter.symm.trans hq)
    rw [Pipeline.generators_run]
    exact fun g hg => hg
  have hrepeated : (p.survey [c]).repeated = none := by decide +kernel
  obtain ⟨⟨warnings, stats, hok⟩, -⟩ := Pipeline.run_of_distinct hrepeated memo
  have hanswer : Answer.ran (p.run memo [c]).outcome = .ran (.ok _) := congrArg Answer.ran hok
  exact ⟨e, he, hdefaults, _, _, hreply, hanswer,
    hhistories _ _ history hinj e he hdefaults _ _ hreply hanswer⟩

end Generator

end Stencil
