import Stencil.Digest.Xxh64
import Stencil.Proofs.Artifact.Equality
import Stencil.Proofs.Pipeline.Freshness

/-!
# What a report counts

A pass goes through all pairs of a candidate and a generator.  Each pair is skipped or has a draft,
and each draft is made anew or taken over, so the counters of a report add up to the number of
pairs.  The drafts have distinct keys, so they can be counted by the outputs, by the kept artifacts,
or by the keys of either.

The main results are

* `ArtifactKey.le_iff`: keys are ordered by the code points of generator and identity;
* `Pipeline.passes_after`: a pipeline counts the passes of its history that went through;
* `Pipeline.run_accounted`: after every history, the report of a pass, what the pipeline keeps
  afterwards and all counters agree (`Report.Accounted`).
-/

namespace Stencil

/-! ## The order of keys -/

namespace ArtifactKey

/-- A key stands before another one: its generator does, or the generator is the same and its
identity does.  Texts are compared by their code points from the front. -/
def Before (a b : ArtifactKey) : Prop :=
  a.generator < b.generator ∨ a.generator = b.generator ∧ a.identity < b.identity

variable {a b c : ArtifactKey}

lemma le_iff_le : a.le b = true ↔
    a.generator < b.generator ∨ a.generator = b.generator ∧ a.identity ≤ b.identity := by
  simp [le]

/-- The order that outputs are sorted by is `Before`, or equality. -/
theorem le_iff : a.le b = true ↔ a.Before b ∨ a = b := by
  obtain ⟨generator, identity⟩ := a
  obtain ⟨generator', identity'⟩ := b
  simp only [le_iff_le, Before, mk.injEq, Std.le_iff_lt_or_eq]
  tauto

lemma le_trans (hab : a.le b = true) (hbc : b.le c = true) : a.le c = true := by
  rw [le_iff_le] at hab hbc ⊢
  rcases hab with hab | ⟨hab, hab'⟩ <;> rcases hbc with hbc | ⟨hbc, hbc'⟩
  · exact Or.inl (String.lt_trans hab hbc)
  · exact Or.inl (hbc ▸ hab)
  · exact Or.inl (hab ▸ hbc)
  · exact Or.inr ⟨hab.trans hbc, String.le_trans hab' hbc'⟩

lemma le_total (a b : ArtifactKey) : (a.le b || b.le a) = true := by
  rw [Bool.or_eq_true, le_iff_le, le_iff_le]
  by_cases hab : a.generator < b.generator
  · exact Or.inl (Or.inl hab)
  · by_cases hba : b.generator < a.generator
    · exact Or.inr (Or.inl hba)
    · have heq : a.generator = b.generator :=
        String.le_antisymm (String.not_lt.1 hba) (String.not_lt.1 hab)
      rcases String.le_total a.identity b.identity with h | h
      · exact Or.inl (Or.inr ⟨heq, h⟩)
      · exact Or.inr (Or.inr ⟨heq.symm, h⟩)

/-- What is sorted by its keys is in strictly increasing order of them, if they are distinct. -/
lemma pairwise_before_mergeSort {α : Type} {key : α → ArtifactKey} {l : List α}
    (h : (l.map key).Nodup) :
    (l.mergeSort fun x y => (key x).le (key y)).Pairwise fun x y => (key x).Before (key y) := by
  have htrans : ∀ x y z, (key x).le (key y) = true → (key y).le (key z) = true →
      (key x).le (key z) = true := fun _ _ _ => le_trans
  have htotal : ∀ x y, ((key x).le (key y) || (key y).le (key x)) = true :=
    fun x y => le_total (key x) (key y)
  have hsorted := List.pairwise_mergeSort htrans htotal l
  have hperm := List.mergeSort_perm l fun x y => (key x).le (key y)
  have hdistinct := List.pairwise_map.1 ((hperm.map key).nodup_iff.2 h)
  refine (hsorted.and hdistinct).imp ?_
  rintro x y ⟨hle, hne⟩
  exact (le_iff.1 hle).resolve_right hne

end ArtifactKey

/-! ## Reports -/

/-- Among outputs with distinct keys the output of a key is found by the key. -/
lemma Report.find?_eq_some_iff {r : Report} (h : (r.outputs.map Output.key).Nodup)
    {key : ArtifactKey} {o : Output} : r.find? key = some o ↔ o ∈ r.outputs ∧ o.key = key := by
  constructor
  · intro hfind
    have hkey := List.find?_some hfind
    exact ⟨List.mem_of_find?_eq_some hfind, by simpa using hkey⟩
  · rintro ⟨ho, rfl⟩
    obtain ⟨o', hfind⟩ : ∃ o', r.find? o.key = some o' := by
      rw [← Option.isSome_iff_exists, find?, List.find?_isSome]
      exact ⟨o, ho, by simp⟩
    have ho' := List.mem_of_find?_eq_some hfind
    have hkey : o'.key = o.key := by simpa using List.find?_some hfind
    rw [hfind, List.inj_on_of_nodup_map h ho' ho hkey]

/-- Whether an answer is the report of a pass. -/
def Answer.isReport : Answer → Bool
  | .ran (.ok _) => true
  | _ => false

section Main

variable [TextHash]

/-- A report of a pass of the pipeline `p` over some candidates, what the pipeline keeps afterwards
(`next`), and all counters agree with each other. -/
structure Report.Accounted (r : Report) (p : Pipeline) (candidates : List Candidate)
    (next : Pipeline) : Prop where
  /-- The outputs are in strictly increasing order of their keys. -/
  sorted : r.outputs.Pairwise fun a b => a.key.Before b.key
  /-- There is an output for each artifact that a generator describes, and for nothing else. -/
  mem_keys_iff : ∀ key, key ∈ r.outputs.map Output.key ↔
    ∃ g ∈ p.generators, ∃ c ∈ candidates, ∃ d,
      g.extract c p.options = .ok d ∧ key = ⟨g.name, d.identity⟩
  /-- The keys of the kept artifacts are those of the outputs. -/
  kept_iff : ∀ key, (next.kept? key).isSome = true ↔ key ∈ r.outputs.map Output.key
  /-- A kept artifact has the text of its output. -/
  kept_text : ∀ o ∈ r.outputs, (next.kept? o.key).map Artifact.text = some o.text
  /-- A kept artifact has a descriptor equal to the one that the generator gave. -/
  kept_descriptor : ∀ g ∈ p.generators, ∀ c ∈ candidates, ∀ d, g.extract c p.options = .ok d →
    ∃ a, next.kept? ⟨g.name, d.identity⟩ = some a ∧ (a.descriptor == d) = true
  /-- An output is found by its key, and nothing is found by another key. -/
  find : ∀ key o, r.find? key = some o ↔ o ∈ r.outputs ∧ o.key = key
  size : r.stats.candidates = candidates.length
  /-- Each pair of a candidate and a generator is skipped, made or taken over. -/
  pairs : r.stats.skipped + r.stats.generated + r.stats.reused =
    candidates.length * p.generators.length
  outputs : r.stats.generated + r.stats.reused = r.outputs.length
  cache : r.outputs.length = next.cache.size
  fresh : r.fresh.length = r.stats.generated
  /-- An artifact is removed if it was kept and its key is not the key of an output. -/
  removed : r.stats.removed = (p.cache.keys.filter fun key => key ∉ r.outputs.map Output.key).length
  passes : next.passes = p.passes + 1

namespace Pipeline

variable {p next : Pipeline} {candidates : List Candidate} {memo : ScanMemo} {r : Report}

/-! ## The outputs of a pass -/

lemma map_key_outputs_afterPass :
    (p.afterPass (p.survey candidates).drafts).outputs.map Output.key =
      ((p.survey candidates).drafts.mergeSort fun d e => d.key.le e.key).map Draft.key := by
  rw [outputs_afterPass, List.map_map]
  rfl

lemma mem_keys_afterPass_iff {key : ArtifactKey} :
    key ∈ (p.afterPass (p.survey candidates).drafts).outputs.map Output.key ↔
      ∃ d ∈ (p.survey candidates).drafts, d.key = key := by
  simp only [map_key_outputs_afterPass, List.mem_map, List.mem_mergeSort]

/-- There are outputs for the artifacts that the generators describe. -/
lemma mem_keys_afterPass_iff_exists_extract (h : (p.survey candidates).repeated = none)
    {key : ArtifactKey} :
    key ∈ (p.afterPass (p.survey candidates).drafts).outputs.map Output.key ↔
      ∃ g ∈ p.generators, ∃ c ∈ candidates, ∃ d,
        g.extract c p.options = .ok d ∧ key = ⟨g.name, d.identity⟩ := by
  simp only [mem_keys_afterPass_iff, mem_drafts_iff h]
  constructor
  · rintro ⟨d, ⟨hg, c, hc, hextract⟩, rfl⟩
    exact ⟨d.generator, hg, c, hc, d.descriptor, hextract, rfl⟩
  · rintro ⟨g, hg, c, hc, d, hextract, rfl⟩
    exact ⟨⟨g, d⟩, ⟨hg, c, hc, hextract⟩, rfl⟩

/-- Outputs are in strictly increasing order: they are sorted, and no key occurs twice. -/
lemma pairwise_before_outputs_afterPass :
    (p.afterPass (p.survey candidates).drafts).outputs.Pairwise fun a b => a.key.Before b.key := by
  rw [outputs_afterPass, List.pairwise_map]
  exact ArtifactKey.pairwise_before_mergeSort Survey.nodup_keys.1

lemma nodup_keys_outputs_afterPass :
    ((p.afterPass (p.survey candidates).drafts).outputs.map Output.key).Nodup := by
  rw [map_key_outputs_afterPass]
  exact List.pairwise_map.2 (pairwise_key_ne candidates)

lemma fresh_artifact (p : Pipeline) (d : Draft) : (p.artifact d).fresh = p.isRendered d := by
  unfold artifact isRendered
  cases p.verdict d <;> rfl

/-- The fresh outputs are those of the drafts that are made anew. -/
lemma length_fresh_afterPass :
    ((p.afterPass (p.survey candidates).drafts).outputs.filter Output.fresh).length =
      ((p.survey candidates).drafts.filter p.isRendered).length := by
  have hfresh : (Output.fresh ∘ fun d => Output.ofArtifact d.key (p.artifact d)) = p.isRendered :=
    funext fun d => fresh_artifact p d
  rw [outputs_afterPass, List.filter_map, List.length_map, hfresh]
  exact ((List.mergeSort_perm _ _).filter _).length_eq

/-! ## What is kept after a pass -/

lemma isSome_kept?_afterPass_iff {key : ArtifactKey} :
    ((p.afterPass (p.survey candidates).drafts).kept? key).isSome = true ↔
      key ∈ (p.afterPass (p.survey candidates).drafts).outputs.map Output.key := by
  rw [mem_keys_afterPass_iff, Option.isSome_iff_exists]
  simp only [kept?_afterPass_iff]
  constructor
  · rintro ⟨a, d, hd, hkey, -⟩
    exact ⟨d, hd, hkey⟩
  · rintro ⟨d, hd, hkey⟩
    exact ⟨_, d, hd, hkey, rfl⟩

lemma kept?_text_of_mem_outputs {o : Output}
    (ho : o ∈ (p.afterPass (p.survey candidates).drafts).outputs) :
    ((p.afterPass (p.survey candidates).drafts).kept? o.key).map Artifact.text = some o.text := by
  rw [outputs_afterPass] at ho
  obtain ⟨d, hd, rfl⟩ := List.mem_map.1 ho
  have hkept := kept?_afterPass_iff.2 ⟨d, List.mem_mergeSort.1 hd, rfl, rfl⟩
  exact congrArg (Option.map Artifact.text) hkept

/-- What is kept for a described artifact has a descriptor equal to the one described. -/
lemma exists_kept?_of_extract (h : (p.survey candidates).repeated = none) {g : Generator}
    (hg : g ∈ p.generators) {c : Candidate} (hc : c ∈ candidates) {d : Descriptor}
    (hextract : g.extract c p.options = .ok d) :
    ∃ a, (p.afterPass (p.survey candidates).drafts).kept? ⟨g.name, d.identity⟩ = some a ∧
      (a.descriptor == d) = true := by
  have hd : (⟨g, d⟩ : Draft) ∈ (p.survey candidates).drafts :=
    (mem_drafts_iff h).2 ⟨hg, c, hc, hextract⟩
  refine ⟨_, kept?_afterPass_iff.2 ⟨_, hd, rfl, rfl⟩, ?_⟩
  exact Descriptor.beq_iff.2 (descriptor_artifact p ⟨g, d⟩)

/-! ## Counting pairs -/

omit [TextHash] in
lemma length_findings (p : Pipeline) (candidates : List Candidate) :
    (p.findings candidates).length = candidates.length * p.generators.length := by
  simp [findings, List.length_flatMap]

omit [TextHash] in
/-- Each finding is either skipped or has a draft. -/
lemma length_skips_add_length_drafts (h : (p.survey candidates).repeated = none) :
    (p.survey candidates).skips.length + (p.survey candidates).drafts.length =
      candidates.length * p.generators.length := by
  obtain ⟨hdrafts, hskips⟩ := Survey.eq_of_repeated_eq_none h
  have hsplit := List.length_eq_countP_add_countP (fun f : Finding => f.draft?.isSome)
    (l := p.findings candidates)
  rw [survey, hdrafts, hskips, List.length_filterMap_eq_countP, List.length_filterMap_eq_countP,
    ← length_findings, hsplit, Nat.add_comm]
  congr 1
  refine List.countP_congr fun f _ => ?_
  simp [Finding.isSome_skip?]

lemma stats_eq (h : (p.run memo candidates).outcome = .ok r) :
    r.stats =
      { candidates := candidates.length
        skipped := (p.survey candidates).skips.length
        generated := ((p.survey candidates).drafts.filter p.isRendered).length
        reused := ((p.survey candidates).drafts.filter fun d => !p.isRendered d).length
        removed := (p.removedKeys (p.survey candidates).drafts).length } := by
  have hrepeated := (run_eq_ok h).1
  simp only [run, hrepeated, Except.ok.injEq] at h
  subst h
  rfl

/-- What was kept is removed unless an output has its key. -/
lemma length_removedKeys (p : Pipeline) (candidates : List Candidate) :
    (p.removedKeys (p.survey candidates).drafts).length =
      (p.cache.keys.filter fun key =>
        key ∉ (p.afterPass (p.survey candidates).drafts).outputs.map Output.key).length := by
  rw [removedKeys, List.length_mergeSort]
  congr 1
  refine List.filter_congr fun key _ => ?_
  rw [Bool.eq_iff_iff]
  simp [mem_keys_afterPass_iff]

/-! ## Counting passes -/

/-- The number of passes in a history that went through. -/
def passesIn (p : Pipeline) : List Step → Nat
  | [] => 0
  | s :: rest =>
    (if (p.perform s.memo s.command).1.answer.isReport then 1 else 0) +
      (p.perform s.memo s.command).2.1.passesIn rest

omit [TextHash] in
lemma passes_of_add_eq_ok {g : Generator} (h : p.add g = .ok next) : next.passes = p.passes := by
  unfold add at h
  split at h
  · cases h
  · cases h
    rfl

/-- A command counts one pass if its answer is a report, and none otherwise. -/
lemma passes_perform (p : Pipeline) (memo : ScanMemo) (command : Command) :
    (p.perform memo command).2.1.passes =
      p.passes + if (p.perform memo command).1.answer.isReport then 1 else 0 := by
  cases command with
  | add g =>
    cases hadd : p.add g with
    | ok next => simp [perform, hadd, Answer.isReport, passes_of_add_eq_ok hadd]
    | error e => simp [perform, hadd, Answer.isReport]
  | configure o => rfl
  | forget => rfl
  | run candidates =>
    show (p.run memo candidates).pipeline.passes =
      p.passes + if Answer.isReport (.ran (p.run memo candidates).outcome) then 1 else 0
    cases hrepeated : (p.survey candidates).repeated with
    | none =>
      obtain ⟨⟨warnings, stats, hrun⟩, hpipeline⟩ := run_of_distinct hrepeated memo
      rw [hrun, hpipeline]
      rfl
    | some key =>
      obtain ⟨hrun, hpipeline⟩ := run_of_repeated hrepeated memo
      rw [hrun, hpipeline]
      rfl

/-- A pipeline counts the passes of its history that went through. -/
theorem passes_after (p : Pipeline) (history : List Step) :
    (p.after history).passes = p.passes + p.passesIn history := by
  induction history generalizing p with
  | nil => rfl
  | cons s rest ih =>
    show ((p.perform s.memo s.command).2.1.after rest).passes = _
    rw [ih, passes_perform, passesIn, Nat.add_assoc]

omit [TextHash] in
lemma Created.passes_eq (h : p.Created) : p.passes = 0 := by
  cases h <;> rfl

/-! ## Reports -/

/-- A pass that goes through is accounted for. -/
lemma accounted_of_run_eq_ok (h : (p.run memo candidates).outcome = .ok r) :
    r.Accounted p candidates (p.run memo candidates).pipeline := by
  obtain ⟨hrepeated, hpipeline, houtputs, -⟩ := run_eq_ok h
  have hstats := stats_eq h
  have hkeys : ((p.afterPass (p.survey candidates).drafts).outputs.map Output.key).Nodup :=
    nodup_keys_outputs_afterPass
  have hsplit := List.length_eq_length_filter_add (l := (p.survey candidates).drafts) p.isRendered
  have hlength : r.outputs.length = (p.survey candidates).drafts.length := by
    rw [houtputs, outputs_afterPass, List.length_map, List.length_mergeSort]
  rw [hpipeline]
  exact
    { sorted := houtputs ▸ pairwise_before_outputs_afterPass
      mem_keys_iff := fun _ => houtputs ▸ mem_keys_afterPass_iff_exists_extract hrepeated
      kept_iff := fun _ => houtputs ▸ isSome_kept?_afterPass_iff
      kept_text := fun _ ho => kept?_text_of_mem_outputs (houtputs ▸ ho)
      kept_descriptor := fun _ hg _ hc _ hextract =>
        exists_kept?_of_extract hrepeated hg hc hextract
      find := fun _ _ => Report.find?_eq_some_iff (houtputs ▸ hkeys)
      size := by rw [hstats]
      pairs := by rw [hstats, ← length_skips_add_length_drafts hrepeated, hsplit, Nat.add_assoc]
      outputs := by rw [hstats, hlength, hsplit]
      cache := by rw [hlength, Table.size, entries_afterPass, List.length_map]
      fresh := by rw [Report.fresh, houtputs, length_fresh_afterPass, hstats]
      removed := by rw [hstats, houtputs, length_removedKeys]
      passes := rfl }

/-- **Report, kept artifacts and counters agree.**  After every history of a pipeline, a pass that
goes through is accounted for, and the pipeline has counted as many passes as have gone through. -/
theorem run_accounted (hp : p.Created) (history : List Step) (candidates : List Candidate)
    (memo : ScanMemo) {report : Report}
    (hok : ((p.after history).run memo candidates).outcome = .ok report) :
    report.Accounted (p.after history) candidates
        ((p.after history).run memo candidates).pipeline ∧
      (p.after history).passes = p.passesIn history ∧
      ((p.after history).run memo candidates).pipeline.passes =
        p.passesIn (history ++ [⟨.run candidates, memo⟩]) := by
  have hcount : ∀ steps, (p.after steps).passes = p.passesIn steps := fun steps => by
    rw [passes_after, hp.passes_eq, Nat.zero_add]
  refine ⟨accounted_of_run_eq_ok hok, hcount history, ?_⟩
  rw [← hcount, after_concat]
  rfl

end Pipeline

end Main

/-- One artifact is taken over, one is made and one is removed; before that the options are changed
and changed back, and a pass ends in a conflict. -/
theorem Pipeline.run_accounted_removed :
    let c : Candidate := { name := "Lookup", markers := [.holder (.result "User" "String")] }
    let d : Candidate := { name := "Maybe", markers := [.holder (.option "u8")] }
    let e : Candidate := { name := "Email", markers := [.valueObject ⟨"String", true⟩] }
    let p := withDefaults {} {}
    let history : List Step :=
      [⟨.run [c, d], .empty⟩, ⟨.configure { header := false }, .empty⟩, ⟨.run [d, c, d], .empty⟩,
        ⟨.configure {}, .empty⟩]
    ∃ report, ((p.after history).run .empty [e, c]).outcome = .ok report ∧
      report.Accounted (p.after history) [e, c] ((p.after history).run .empty [e, c]).pipeline ∧
      (p.after history).passes = p.passesIn history ∧
      ((p.after history).run .empty [e, c]).pipeline.passes =
        p.passesIn (history ++ [⟨.run [e, c], .empty⟩]) := by
  intro c d e p history
  have hrepeated : ((p.after history).survey [e, c]).repeated = none := by decide +kernel
  obtain ⟨⟨warnings, stats, hok⟩, -⟩ := run_of_distinct hrepeated .empty
  exact ⟨_, hok, run_accounted (.withDefaults {} {}) history [e, c] .empty hok⟩

end Stencil
