import Mathlib.Data.List.Forall2
import Stencil.Digest.Xxh64
import Stencil.Proofs.Artifact.Equality
import Stencil.Proofs.Pipeline.History

/-!
# Keeping artifacts changes no output

A pass keeps artifacts of the pass before instead of making them again.  This is without effect
on the files: after every history a pass ends as it would on a new pipeline with the same
generators and options.

The invariant behind this says where each kept artifact comes from (`Pipeline.Grounded`): one of
the generators made it from the descriptor that it carries, under options that were set at some
time and whose digest is the one that the pipeline remembers.  Nothing is said about when this was;
the artifact may have been kept by many passes, and the options may have been changed and changed
back in between.

The main results are

* `Pipeline.grounded_after`: the invariant holds after every history;
* `Pipeline.run_after_eq_run_new`: an incremental pass and a pass from scratch give the same files.
-/

namespace Stencil

/-- Two outputs are the same file, whenever their texts were made. -/
structure Output.SameFile (a b : Output) : Prop where
  key : a.key = b.key
  kind : a.kind = b.kind
  fileName : a.fileName = b.fileName
  text : a.text = b.text

/-- Two passes end alike: in the same conflict, or with the same files position by position. -/
def EndAlike : Except Conflict Report → Except Conflict Report → Prop
  | .error e, .error e' => e = e'
  | .ok r, .ok r' => List.Forall₂ Output.SameFile r.outputs r'.outputs
  | _, _ => False

/-- Options that differ in their style only have different digests, whatever the hash of texts. -/
lemma Options.style_eq_of_fingerprint_eq [TextHash] {o o' : Options}
    (hformats : o.serialization = o'.serialization) (hheader : o.header = o'.header)
    (htoolchain : o.toolchain = o'.toolchain) (h : o.fingerprint = o'.fingerprint) :
    o.style = o'.style := by
  have hcode : styleCode o.style = styleCode o'.style := by
    simpa [fingerprint, Digest.mix, hformats, hheader, htoolchain] using h
  cases hs : o.style <;> cases ht : o'.style <;> rw [hs, ht] at hcode
  · exact absurd hcode (by decide)
  · exact absurd hcode (by decide)

/-- A generator makes an artifact from the descriptor that it carries. -/
structure Artifact.MadeBy (a : Artifact) (g : Generator) (f : Filler) : Prop where
  fileName : a.fileName = g.fileName a.descriptor
  text : a.text = f.fill (g.pattern a.descriptor) a.descriptor.bindings

lemma Draft.render_madeBy (d : Draft) (f : Filler) : (d.render f).MadeBy d.generator f := ⟨rfl, rfl⟩

/-- An artifact is as its generator would make it now from a descriptor that says the same. -/
lemma Artifact.MadeBy.sameFile {a : Artifact} {d : Draft} {f : Filler}
    (h : a.MadeBy d.generator f) (hd : a.descriptor.Agrees d.descriptor) (key : ArtifactKey) :
    (Output.ofArtifact key { a with fresh := false }).SameFile
      (Output.ofArtifact key (d.render f)) where
  key := rfl
  kind := hd.kind
  fileName := h.fileName.trans (d.generator.fileName_congr hd)
  text := by
    show a.text = f.fill (d.generator.pattern d.descriptor) d.descriptor.bindings
    rw [h.text, d.generator.pattern_congr hd, f.fill_congr hd.get?]

namespace Pipeline

section Main

variable [TextHash]

/-! ## Where kept artifacts come from -/

/-- Each kept artifact was made by a generator of the pipeline, under used options that have the
remembered digest. -/
structure Grounded (used : List Options) (p : Pipeline) : Prop where
  options_mem : p.options ∈ used
  kept : ∀ {key : ArtifactKey} {a : Artifact}, p.kept? key = some a →
    ∃ g ∈ p.generators, ∃ o ∈ used, key = ⟨g.name, a.descriptor.identity⟩ ∧
      p.cachedUnder = some o.fingerprint ∧ a.MadeBy g o.filler

variable {used : List Options} {p next : Pipeline}

lemma grounded_of_cache_eq (hcache : p.cache = Table.empty) (hoptions : p.options ∈ used) :
    p.Grounded used where
  options_mem := hoptions
  kept := by
    intro key a hkept
    rw [kept?, hcache, Table.get?_empty] at hkept
    cases hkept

/-- An artifact that a pass keeps was made under options with the present digest by the generator
of the draft. -/
lemma Grounded.kept_of_isCurrent (hp : p.Grounded used) {d : Draft} {a : Artifact}
    (hd : d.generator ∈ p.generators) (hkept : p.kept? d.key = some a)
    (hcurrent : p.isCurrent = true) :
    ∃ o ∈ used, o.fingerprint = p.options.fingerprint ∧ a.MadeBy d.generator o.filler := by
  obtain ⟨g, hg, o, ho, hkey, hcached, hmade⟩ := hp.kept hkept
  rw [isCurrent, hcached, beq_iff_eq, Option.some.injEq] at hcurrent
  obtain rfl : d.generator = g := eq_of_name_eq hd hg (congrArg ArtifactKey.generator hkey)
  exact ⟨o, ho, hcurrent, hmade⟩

/-- A pass keeps or makes artifacts, and remembers the digest of the present options; an artifact
that it keeps was made under options with the same digest. -/
lemma Grounded.afterPass (hp : p.Grounded used) (candidates : List Candidate) :
    (p.afterPass (p.survey candidates).drafts).Grounded used where
  options_mem := hp.options_mem
  kept := by
    intro key a hkept
    obtain ⟨d, hd, rfl, rfl⟩ := kept?_afterPass_iff.1 hkept
    obtain ⟨hg, -⟩ := extract_of_mem_drafts hd
    rcases artifact_cases p d with ⟨a, hkept, hcurrent, heq, hart⟩ | hart
    · obtain ⟨o, ho, hfingerprint, hmade⟩ := hp.kept_of_isCurrent hg hkept hcurrent
      have hidentity := (Descriptor.beq_iff.1 heq).identity
      rw [hart]
      refine ⟨d.generator, hg, o, ho, ?_, congrArg some hfingerprint.symm, hmade.fileName,
        hmade.text⟩
      rw [Draft.key, hidentity]
    · rw [hart]
      exact ⟨d.generator, hg, p.options, hp.options_mem, rfl, rfl, d.render_madeBy _⟩

lemma Grounded.change {command : Command} (hp : p.Grounded used) (h : p.Change command next)
    (hused : ∀ o, command.options? = some o → o ∈ used) : next.Grounded used := by
  cases h with
  | added h =>
    obtain ⟨hgenerators, hoptions, hcache, hcached⟩ := add_eq_ok h
    refine ⟨hoptions ▸ hp.options_mem, fun hkept => ?_⟩
    rw [kept?, hcache] at hkept
    obtain ⟨g, hg, o, ho, hkey, hold, hmade⟩ := hp.kept hkept
    exact ⟨g, hgenerators ▸ List.mem_append_left _ hg, o, ho, hkey, hcached.trans hold, hmade⟩
  | refused => exact hp
  | configured o => exact ⟨hused o rfl, hp.kept⟩
  | forgotten => exact grounded_of_cache_eq rfl hp.options_mem
  | passed => exact hp.afterPass _
  | failed => exact hp

/-- After every history each kept artifact comes from a generator and options of that history. -/
theorem grounded_after (hp : p.Created) (history : List Step) :
    (p.after history).Grounded (p.optionsIn history) := by
  refine after_induction ?_ fun s hs q next hq hchange => hq.change hchange fun o ho => ?_
  · exact grounded_of_cache_eq hp.cache_eq List.mem_cons_self
  · exact List.mem_cons_of_mem _ (List.mem_filterMap.2 ⟨s, hs, ho⟩)

/-! ## From scratch -/

/-- The artifact of a draft is the file that would be made from the draft. -/
lemma Grounded.sameFile (hp : p.Grounded used)
    (hstyle : ∀ o ∈ used, ∀ o' ∈ used, o.fingerprint = o'.fingerprint → o.style = o'.style)
    {d : Draft} (hd : d.generator ∈ p.generators) :
    (Output.ofArtifact d.key (p.artifact d)).SameFile
      (Output.ofArtifact d.key (d.render p.options.filler)) := by
  rcases artifact_cases p d with ⟨a, hkept, hcurrent, heq, hart⟩ | hart
  · obtain ⟨o, ho, hfingerprint, hmade⟩ := hp.kept_of_isCurrent hd hkept hcurrent
    have hfiller : o.filler = p.options.filler := by
      rw [Options.filler, Options.filler, hstyle o ho _ hp.options_mem hfingerprint]
    rw [hfiller] at hmade
    rw [hart]
    exact hmade.sameFile (Descriptor.beq_iff.1 heq) d.key
  · rw [hart]
    exact ⟨rfl, rfl, rfl, rfl⟩

/-- Nothing is kept from before, so that every draft is rendered. -/
lemma artifact_renewed (p : Pipeline) (d : Draft) :
    p.renewed.artifact d = d.render p.options.filler := by
  rcases artifact_cases p.renewed d with ⟨a, hkept, -⟩ | hart
  · rw [kept?, renewed, empty, Table.get?_empty] at hkept
    cases hkept
  · exact hart

lemma Grounded.run_renewed (hp : p.Grounded used)
    (hstyle : ∀ o ∈ used, ∀ o' ∈ used, o.fingerprint = o'.fingerprint → o.style = o'.style)
    (candidates : List Candidate) (memo memo' : ScanMemo) :
    EndAlike (p.run memo candidates).outcome (p.renewed.run memo' candidates).outcome := by
  -- the survey looks at generators and options only
  have hsurvey : p.renewed.survey candidates = p.survey candidates := rfl
  cases h : (p.survey candidates).repeated with
  | some key =>
    have h' : (p.renewed.survey candidates).repeated = some key := h
    rw [(run_of_repeated h memo).1, (run_of_repeated h' memo').1]
    rfl
  | none =>
    obtain ⟨⟨warnings, stats, hrun⟩, -⟩ := run_of_distinct h memo
    have h' : (p.renewed.survey candidates).repeated = none := h
    obtain ⟨⟨warnings', stats', hrun'⟩, -⟩ := run_of_distinct h' memo'
    rw [hrun, hrun']
    show List.Forall₂ _ (Pipeline.outputs _) (Pipeline.outputs _)
    rw [outputs_afterPass, outputs_afterPass, hsurvey, List.forall₂_map_left_iff,
      List.forall₂_map_right_iff, List.forall₂_same]
    intro d hd
    have hdrafts : d ∈ (p.survey candidates).drafts := List.mem_mergeSort.1 hd
    rw [artifact_renewed]
    exact hp.sameFile hstyle (extract_of_mem_drafts hdrafts).1

/-- **Incremental equals from scratch.**  After any history of a pipeline, in which no two options
of equal digest differ in style, a pass ends as on a new pipeline that was given the same options
and configuration and then the same generators in their order. -/
theorem run_after_eq_run_new {p : Pipeline} (hp : p.Created) (history : List Step)
    (hstyle : ∀ o ∈ p.optionsIn history, ∀ o' ∈ p.optionsIn history,
      o.fingerprint = o'.fingerprint → o.style = o'.style)
    (candidates : List Candidate) (memo memo' : ScanMemo) :
    ∃ q, (p.after history).generators.foldlM add
          (empty (p.after history).options (p.after history).config) = .ok q ∧
      EndAlike ((p.after history).run memo candidates).outcome (q.run memo' candidates).outcome :=
  ⟨_, foldlM_add_renewed _, (grounded_after hp history).run_renewed hstyle candidates memo memo'⟩

end Main

/-- The style is changed and changed back, with a pass in between that ends in a conflict. -/
theorem run_after_eq_run_new_restyled :
    let c : Candidate := { name := "Lookup", markers := [.holder (.result "User" "String")] }
    let p := withDefaults {} {}
    let history : List Step :=
      [⟨.run [c], .empty⟩, ⟨.configure { style := .simple }, .empty⟩, ⟨.run [c, c], .empty⟩,
        ⟨.configure {}, .empty⟩]
    (∀ o ∈ p.optionsIn history, ∀ o' ∈ p.optionsIn history,
        o.fingerprint = o'.fingerprint → o.style = o'.style) ∧
      ∃ q, (p.after history).generators.foldlM add
            (empty (p.after history).options (p.after history).config) = .ok q ∧
        EndAlike ((p.after history).run .empty [c]).outcome (q.run .empty [c]).outcome := by
  intro c p history
  have hoptions : ∀ o ∈ p.optionsIn history,
      o.serialization = .none ∧ o.header = true ∧ o.toolchain = "holdgen 0.1.0" := by
    intro o ho
    change o ∈ [{}, { style := .simple }, {}] at ho
    simp only [List.mem_cons, List.not_mem_nil, or_false] at ho
    rcases ho with rfl | rfl | rfl <;> exact ⟨rfl, rfl, rfl⟩
  have hstyle : ∀ o ∈ p.optionsIn history, ∀ o' ∈ p.optionsIn history,
      o.fingerprint = o'.fingerprint → o.style = o'.style := by
    intro o ho o' ho' h
    obtain ⟨hformats, hheader, htoolchain⟩ := hoptions o ho
    obtain ⟨hformats', hheader', htoolchain'⟩ := hoptions o' ho'
    exact Options.style_eq_of_fingerprint_eq (hformats.trans hformats'.symm)
      (hheader.trans hheader'.symm) (htoolchain.trans htoolchain'.symm) h
  exact ⟨hstyle, run_after_eq_run_new (.withDefaults {} {}) history hstyle [c] .empty .empty⟩

end Pipeline

end Stencil
