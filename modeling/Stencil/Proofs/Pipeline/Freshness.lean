import Mathlib.Data.List.Induction
import Stencil.Digest.Xxh64
import Stencil.Proofs.Artifact.Equality
import Stencil.Proofs.Pipeline.History

/-!
# Which outputs are fresh

A pass takes an artifact over from what the pipeline keeps, and what it keeps are the artifacts of
the latest pass that went through.  Commands that neither run such a pass nor forget anything spare
what is kept (`Pipeline.Spares`), so that a history can be cut at its latest pass: everything
behind it is without effect on what can be taken over.

The main results are

* `Pipeline.LatestPass.cache_eq`: a pipeline keeps the artifacts of the latest pass;
* `Pipeline.cache_eq_empty_or_latestPass`: if there is no such pass, nothing is kept;
* `Pipeline.fresh_exact`: an output is not fresh exactly if the latest pass made it from an equal
  descriptor under options of the same digest.
-/

namespace Stencil.Pipeline

section Main

variable [TextHash]

/-! ## Commands that spare what is kept -/

/-- A step neither forgets the kept artifacts nor runs a pass that goes through. -/
def Spares (p : Pipeline) (s : Step) : Prop :=
  match s.command with
  | .add _ => True
  | .configure _ => True
  | .forget => False
  | .run candidates => ∃ e, (p.run s.memo candidates).outcome = .error e

/-- All steps of a list spare what is kept. -/
def SparesAll (p : Pipeline) : List Step → Prop
  | [] => True
  | s :: rest => p.Spares s ∧ (p.perform s.memo s.command).2.1.SparesAll rest

variable {p : Pipeline}

lemma sparesAll_concat {steps : List Step} {s : Step} :
    p.SparesAll (steps ++ [s]) ↔ p.SparesAll steps ∧ (p.after steps).Spares s := by
  induction steps generalizing p with
  | nil => exact and_comm
  | cons s' steps ih =>
    rw [List.cons_append, SparesAll, ih, SparesAll, and_assoc]
    rfl

lemma Spares.repeated_ne_none {memo : ScanMemo} {candidates : List Candidate}
    (h : p.Spares ⟨.run candidates, memo⟩) : (p.survey candidates).repeated ≠ none := by
  intro hnone
  obtain ⟨e, he⟩ : ∃ e, (p.run memo candidates).outcome = .error e := h
  obtain ⟨⟨warnings, stats, hok⟩, -⟩ := run_of_distinct hnone memo
  rw [hok] at he
  cases he

/-- A sparing step changes neither the kept artifacts nor the digest that they were made under. -/
lemma Spares.perform_eq {s : Step} (h : p.Spares s) :
    (p.perform s.memo s.command).2.1.cache = p.cache ∧
      (p.perform s.memo s.command).2.1.cachedUnder = p.cachedUnder := by
  obtain ⟨command, memo⟩ := s
  have hchange := perform_change p memo command
  revert hchange
  generalize (p.perform memo command).2.1 = next
  intro hchange
  cases hchange with
  | added hadd =>
    obtain ⟨-, -, hcache, hcached⟩ := add_eq_ok hadd
    exact ⟨hcache, hcached⟩
  | refused => exact ⟨rfl, rfl⟩
  | configured o => exact ⟨rfl, rfl⟩
  | forgotten => exact absurd h id
  | passed hnone => exact absurd hnone h.repeated_ne_none
  | failed => exact ⟨rfl, rfl⟩

lemma SparesAll.after_eq {steps : List Step} (h : p.SparesAll steps) :
    (p.after steps).cache = p.cache ∧ (p.after steps).cachedUnder = p.cachedUnder := by
  induction steps generalizing p with
  | nil => exact ⟨rfl, rfl⟩
  | cons s steps ih =>
    obtain ⟨hcache, hcached⟩ := h.1.perform_eq
    obtain ⟨hcache', hcached'⟩ := ih h.2
    exact ⟨hcache'.trans hcache, hcached'.trans hcached⟩

/-- Sparing steps that add no generator do nothing but set options. -/
lemma SparesAll.after_eq_configure {steps : List Step} (h : p.SparesAll steps)
    (hadd : ∀ s ∈ steps, ∀ g, s.command ≠ .add g) :
    p.after steps = p.configure (p.after steps).options := by
  induction steps generalizing p with
  | nil => rfl
  | cons s steps ih =>
    have hrest := ih h.2 fun s' hs' => hadd s' (List.mem_cons_of_mem s hs')
    have hstep : ∃ o, (p.perform s.memo s.command).2.1 = p.configure o := by
      have hadd' := hadd s List.mem_cons_self
      have hspares := h.1
      obtain ⟨command, memo⟩ := s
      cases command with
      | add g => exact absurd rfl (hadd' g)
      | configure o => exact ⟨o, rfl⟩
      | forget => exact absurd hspares id
      | run candidates =>
        obtain ⟨key, hkey⟩ := Option.ne_none_iff_exists'.1 hspares.repeated_ne_none
        exact ⟨p.options, (run_of_repeated hkey memo).2⟩
    obtain ⟨o, ho⟩ := hstep
    show (p.perform s.memo s.command).2.1.after steps =
      p.configure ((p.perform s.memo s.command).2.1.after steps).options
    rw [ho] at hrest ⊢
    exact hrest

/-! ## The latest pass -/

/-- In a history, the latest pass that went through is one over some candidates, behind the steps
`before` and with a report; nothing was forgotten since. -/
def LatestPass (p : Pipeline) (history before : List Step) (candidates : List Candidate)
    (report : Report) : Prop :=
  ∃ memo between, history = before ++ ⟨.run candidates, memo⟩ :: between ∧
    ((p.after before).run memo candidates).outcome = .ok report ∧
    ((p.after before).run memo candidates).pipeline.SparesAll between

variable {history before : List Step} {candidates : List Candidate} {report : Report}

lemma after_append_run (p : Pipeline) (before between : List Step) (candidates : List Candidate)
    (memo : ScanMemo) :
    p.after (before ++ ⟨.run candidates, memo⟩ :: between) =
      ((p.after before).run memo candidates).pipeline.after between := by
  rw [after_append]
  rfl

lemma LatestPass.concat (h : p.LatestPass history before candidates report) {s : Step}
    (hs : (p.after history).Spares s) :
    p.LatestPass (history ++ [s]) before candidates report := by
  obtain ⟨memo, between, rfl, hok, hbetween⟩ := h
  refine ⟨memo, between ++ [s], by simp, hok, sparesAll_concat.2 ⟨hbetween, ?_⟩⟩
  rwa [after_append_run] at hs

/-- A pipeline keeps the artifacts of the latest pass, and the digest of its options. -/
theorem LatestPass.cache_eq (h : p.LatestPass history before candidates report) :
    let q := p.after before
    (p.after history).cache = (q.afterPass (q.survey candidates).drafts).cache ∧
      (p.after history).cachedUnder = some q.options.fingerprint ∧
      report.outputs = (q.afterPass (q.survey candidates).drafts).outputs := by
  intro q
  obtain ⟨memo, between, rfl, hok, hbetween⟩ := h
  obtain ⟨-, hpipeline, houtputs, -⟩ := run_eq_ok hok
  obtain ⟨hcache, hcached⟩ := hbetween.after_eq
  rw [after_append_run, hcache, hcached, hpipeline]
  exact ⟨rfl, rfl, houtputs⟩

/-- Without a latest pass nothing is kept. -/
theorem cache_eq_empty_or_latestPass (hp : p.Created) (history : List Step) :
    (p.after history).cache = Table.empty ∨
      ∃ before candidates report, p.LatestPass history before candidates report := by
  induction history using List.reverseRecOn with
  | nil => exact Or.inl hp.cache_eq
  | append_singleton history s ih =>
    by_cases hs : (p.after history).Spares s
    · rcases ih with hempty | ⟨before, candidates, report, hlatest⟩
      · left
        rw [after_concat, hs.perform_eq.1, hempty]
      · exact Or.inr ⟨before, candidates, report, hlatest.concat hs⟩
    · obtain ⟨command, memo⟩ := s
      cases command with
      | add g => exact absurd trivial hs
      | configure o => exact absurd trivial hs
      | forget =>
        left
        rw [after_concat]
        rfl
      | run candidates =>
        right
        cases hok : ((p.after history).run memo candidates).outcome with
        | error e => exact absurd ⟨e, hok⟩ hs
        | ok report => exact ⟨history, candidates, report, memo, [], rfl, hok, trivial⟩

/-! ## What is taken over -/

lemma descriptor_artifact (p : Pipeline) (d : Draft) :
    (p.artifact d).descriptor.Agrees d.descriptor := by
  rcases artifact_cases p d with ⟨a, -, -, heq, hart⟩ | hart
  · rw [hart]
    exact Descriptor.beq_iff.1 heq
  · rw [hart]
    exact ⟨rfl, rfl, fun _ => rfl⟩

/-- The latest pass of a history made an artifact with the key of a draft from a descriptor equal
to that of the draft, and the digest of the options was the present one. -/
def MadeBefore (p : Pipeline) (history : List Step) (d : Draft) (report : Report) : Prop :=
  ∃ before candidates, p.LatestPass history before candidates report ∧
    (p.after before).options.fingerprint = (p.after history).options.fingerprint ∧
    ∃ d' ∈ ((p.after before).survey candidates).drafts,
      d'.key = d.key ∧ (d'.descriptor == d.descriptor) = true

variable {d : Draft}

/-- What was made before is taken over as it was. -/
lemma MadeBefore.verdict_eq (h : p.MadeBefore history d report) :
    ∃ a, (p.after history).verdict d = .keep a ∧ Output.ofArtifact d.key a ∈ report.outputs := by
  obtain ⟨before, candidates, hlatest, hfingerprint, d', hd', hkey, heq⟩ := h
  obtain ⟨hcache, hcached, houtputs⟩ := hlatest.cache_eq
  refine ⟨(p.after before).artifact d', verdict_eq_keep_iff.2 ⟨?_, ?_, ?_⟩, ?_⟩
  · rw [kept?, hcache, ← kept?, kept?_afterPass_iff]
    exact ⟨d', hd', hkey, rfl⟩
  · rw [isCurrent, hcached, hfingerprint]
    exact beq_self_eq_true _
  · have hmade := descriptor_artifact (p.after before) d'
    have hequal := Descriptor.beq_iff.1 heq
    exact Descriptor.beq_iff.2 (hmade.trans hequal)
  · rw [houtputs, outputs_afterPass, List.mem_map]
    exact ⟨d', List.mem_mergeSort.2 hd', by rw [hkey]⟩

/-- Only what was made before is taken over. -/
lemma madeBefore_of_verdict (hp : p.Created) {a : Artifact}
    (h : (p.after history).verdict d = .keep a) : ∃ report, p.MadeBefore history d report := by
  obtain ⟨hkept, hcurrent, heq⟩ := verdict_eq_keep_iff.1 h
  rcases cache_eq_empty_or_latestPass hp history with hempty | ⟨before, candidates, report, hlatest⟩
  · rw [kept?, hempty, Table.get?_empty] at hkept
    cases hkept
  · obtain ⟨hcache, hcached, -⟩ := hlatest.cache_eq
    rw [kept?, hcache, ← kept?, kept?_afterPass_iff] at hkept
    obtain ⟨d', hd', hkey, rfl⟩ := hkept
    rw [isCurrent, hcached, beq_iff_eq, Option.some.injEq] at hcurrent
    have hmade := descriptor_artifact (p.after before) d'
    have hequal := hmade.symm.trans (Descriptor.beq_iff.1 heq)
    exact ⟨report, before, candidates, hlatest, hcurrent, d', hd', hkey,
      Descriptor.beq_iff.2 hequal⟩

/-! ## Passes that are repeated -/

/-- All drafts of a pass that is repeated at once are taken over. -/
lemma verdict_afterPass (hd : d ∈ (p.survey candidates).drafts) :
    (p.afterPass (p.survey candidates).drafts).verdict d = .keep (p.artifact d) := by
  refine verdict_eq_keep_iff.2 ⟨?_, ?_, ?_⟩
  · exact kept?_afterPass_iff.2 ⟨d, hd, rfl, rfl⟩
  · exact beq_self_eq_true _
  · exact Descriptor.beq_iff.2 (descriptor_artifact p d)

lemma removedKeys_afterPass :
    (p.afterPass (p.survey candidates).drafts).removedKeys (p.survey candidates).drafts = [] := by
  have hnone : (p.afterPass (p.survey candidates).drafts).cache.keys.filter
      (fun key => !(p.survey candidates).drafts.any fun d => d.key == key) = [] := by
    rw [List.filter_eq_nil_iff, Table.keys, entries_afterPass, List.map_map]
    intro key hkey
    obtain ⟨d, hd, rfl⟩ := List.mem_map.1 hkey
    have hany : ((p.survey candidates).drafts.any fun d' => d'.key == d.key) = true :=
      List.any_eq_true.2 ⟨d, hd, beq_self_eq_true _⟩
    simp [hany]
  rw [removedKeys, hnone, List.mergeSort_nil]

/-- A pass that is repeated at once makes and removes nothing. -/
lemma run_again {memo : ScanMemo} (hok : (p.run memo candidates).outcome = .ok report)
    (memo' : ScanMemo) :
    ∃ again, ((p.run memo candidates).pipeline.run memo' candidates).outcome = .ok again ∧
      again.outputs = report.outputs.map (fun o => { o with fresh := false }) ∧
      again.stats.generated = 0 ∧ again.stats.removed = 0 ∧
      again.stats.reused = report.outputs.length := by
  obtain ⟨hrepeated, hpipeline, houtputs, -⟩ := run_eq_ok hok
  rw [hpipeline]
  -- the survey looks at generators and options only
  have hsurvey : (p.afterPass (p.survey candidates).drafts).survey candidates =
      p.survey candidates := rfl
  have hkeep : ∀ d ∈ (p.survey candidates).drafts,
      (p.afterPass (p.survey candidates).drafts).isRendered d = false :=
    fun d hd => isRendered_of_keep (verdict_afterPass hd)
  have hrepeated' :
      ((p.afterPass (p.survey candidates).drafts).survey candidates).repeated = none := hrepeated
  obtain ⟨⟨warnings, stats, hagain⟩, -⟩ := run_of_distinct hrepeated' memo'
  obtain ⟨-, -, houtputs', hgenerated, hreused, hremoved⟩ := run_eq_ok hagain
  refine ⟨_, hagain, ?_, ?_, ?_, ?_⟩
  · rw [houtputs', houtputs, outputs_afterPass, outputs_afterPass, List.map_map, hsurvey]
    refine List.map_congr_left fun d hd => ?_
    rw [artifact_of_keep (verdict_afterPass (List.mem_mergeSort.1 hd))]
    rfl
  · rw [hgenerated, hsurvey, List.length_eq_zero_iff, List.filter_eq_nil_iff]
    intro d hd
    rw [hkeep d hd]
    exact Bool.false_ne_true
  · rw [hremoved, hsurvey, removedKeys_afterPass, List.length_nil]
  · rw [hreused, hsurvey, houtputs, outputs_afterPass, List.length_map, List.length_mergeSort,
      List.filter_eq_self.2]
    intro d hd
    rw [hkeep d hd]
    rfl

/-! ## The fresh flags -/

/-- **Freshness is exact.**  An output of a pass is not fresh exactly if the latest pass before
made it from an equal descriptor under options of the same digest, and then file name and text are
those of that pass.  Failed passes and options that are set in between do nothing else than to set
the options.  A pass that is repeated at once gives the same outputs, none of them fresh. -/
theorem fresh_exact (hp : p.Created) (history : List Step) (candidates : List Candidate)
    (memo : ScanMemo) {report : Report}
    (hok : ((p.after history).run memo candidates).outcome = .ok report) :
    (∀ o ∈ report.outputs, ∃ d ∈ ((p.after history).survey candidates).drafts, d.key = o.key ∧
        (o.fresh = false ↔ ∃ earlier, p.MadeBefore history d earlier) ∧
        ∀ earlier, p.MadeBefore history d earlier →
          ∃ o' ∈ earlier.outputs, o'.key = o.key ∧ o'.fileName = o.fileName ∧ o'.text = o.text) ∧
      (∀ idle, (p.after history).SparesAll idle → (∀ s ∈ idle, ∀ g, s.command ≠ .add g) →
        p.after (history ++ idle) =
          (p.after history).configure (p.after (history ++ idle)).options) ∧
      ∀ memo', ∃ again,
        (((p.after history).run memo candidates).pipeline.run memo' candidates).outcome =
            .ok again ∧
          again.outputs = report.outputs.map (fun o => { o with fresh := false }) ∧
          again.stats.generated = 0 ∧ again.stats.removed = 0 ∧
          again.stats.reused = report.outputs.length := by
  refine ⟨fun o ho => ?_, fun idle hidle hadd => ?_, run_again hok⟩
  · obtain ⟨-, -, houtputs, -⟩ := run_eq_ok hok
    rw [houtputs, outputs_afterPass] at ho
    obtain ⟨d, hd, rfl⟩ := List.mem_map.1 ho
    refine ⟨d, List.mem_mergeSort.1 hd, rfl, ?_, fun earlier hearlier => ?_⟩
    · show ((p.after history).artifact d).fresh = false ↔ _
      rw [fresh_artifact_eq_false_iff]
      constructor
      · rintro ⟨a, ha⟩
        exact madeBefore_of_verdict hp ha
      · rintro ⟨earlier, hearlier⟩
        obtain ⟨a, ha, -⟩ := hearlier.verdict_eq
        exact ⟨a, ha⟩
    · obtain ⟨a, ha, hout⟩ := hearlier.verdict_eq
      refine ⟨_, hout, rfl, ?_⟩
      rw [artifact_of_keep ha]
      exact ⟨rfl, rfl⟩
  · rw [after_append]
    exact hidle.after_eq_configure hadd

end Main

/-- One candidate is as before, one is new; in between the style is changed and changed back, and
a pass ends in a conflict. -/
theorem fresh_exact_restyled :
    let c : Candidate := { name := "Lookup", markers := [.holder (.result "User" "String")] }
    let d : Candidate := { name := "Maybe", markers := [.holder (.option "u8")] }
    let p := withDefaults {} {}
    let history : List Step :=
      [⟨.run [c], .empty⟩, ⟨.configure { style := .simple }, .empty⟩, ⟨.run [c, c], .empty⟩,
        ⟨.configure {}, .empty⟩]
    ∃ report, ((p.after history).run .empty [c, d]).outcome = .ok report ∧
      (∀ o ∈ report.outputs, ∃ d' ∈ ((p.after history).survey [c, d]).drafts, d'.key = o.key ∧
          (o.fresh = false ↔ ∃ earlier, p.MadeBefore history d' earlier) ∧
          ∀ earlier, p.MadeBefore history d' earlier →
            ∃ o' ∈ earlier.outputs,
              o'.key = o.key ∧ o'.fileName = o.fileName ∧ o'.text = o.text) ∧
        (∀ idle, (p.after history).SparesAll idle → (∀ s ∈ idle, ∀ g, s.command ≠ .add g) →
          p.after (history ++ idle) =
            (p.after history).configure (p.after (history ++ idle)).options) ∧
        ∀ memo', ∃ again,
          (((p.after history).run .empty [c, d]).pipeline.run memo' [c, d]).outcome =
              .ok again ∧
            again.outputs = report.outputs.map (fun o => { o with fresh := false }) ∧
            again.stats.generated = 0 ∧ again.stats.removed = 0 ∧
            again.stats.reused = report.outputs.length := by
  intro c d p history
  have hrepeated : ((p.after history).survey [c, d]).repeated = none := by decide +kernel
  obtain ⟨⟨warnings, stats, hok⟩, -⟩ := run_of_distinct hrepeated .empty
  exact ⟨_, hok, fresh_exact (.withDefaults {} {}) history [c, d] .empty hok⟩

end Stencil.Pipeline
