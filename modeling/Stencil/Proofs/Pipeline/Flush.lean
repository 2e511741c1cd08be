import Stencil.Digest.Xxh64
import Stencil.Proofs.Options.Fingerprint
import Stencil.Proofs.Pipeline.Accounting

/-!
# Changed options flush what is kept

A pass takes artifacts over only if the digest of its options is the one that the pipeline
remembers.  Digests tell options apart, so after a change of the options the kept artifacts are
stale, and they stay so until the next pass that goes through: adding generators, forgetting
artifacts and passes that fail do not bring the old options back.

The main results are

* `Pipeline.reuses_nothing`: a pass that finds stale artifacts makes everything anew;
* `Pipeline.after_stale`: artifacts stay stale until the next pass that goes through;
* `Pipeline.changed_options_flush`: so does the first pass after a change of the options.
-/

namespace Stencil

section Main

variable [TextHash]

/-- One option at least is different, and if it is the toolchain alone, the hashes of the
toolchains are different. -/
def Options.ChangedFrom (b a : Options) : Prop :=
  a.toolchain = b.toolchain ∧ a ≠ b ∨
    a.serialization = b.serialization ∧ a.header = b.header ∧ a.style = b.style ∧
      TextHash.hash a.toolchain ≠ TextHash.hash b.toolchain

lemma Options.ChangedFrom.fingerprint_ne {a b : Options} (h : b.ChangedFrom a) :
    a.fingerprint ≠ b.fingerprint := by
  rcases h with ⟨htoolchain, hne⟩ | ⟨hserialization, hheader, hstyle, hhash⟩
  · exact fun heq => hne ((fingerprint_eq_iff htoolchain).1 heq)
  · exact fun heq => hhash ((fingerprint_eq_iff_hash_eq hserialization hheader hstyle).1 heq)

namespace Pipeline

variable {p : Pipeline} {candidates : List Candidate} {memo : ScanMemo} {r : Report}

/-! ## Stale artifacts -/

lemma isRendered_of_stale (h : p.isCurrent = false) (d : Draft) : p.isRendered d = true := by
  cases hverdict : p.verdict d with
  | keep a =>
    rw [(verdict_eq_keep_iff.1 hverdict).2.1] at h
    cases h
  | render changed => rw [isRendered, hverdict]

/-- A pass that finds stale artifacts takes none of them over. -/
theorem reuses_nothing (h : p.isCurrent = false)
    (hok : (p.run memo candidates).outcome = .ok r) :
    r.stats.reused = 0 ∧ r.stats.generated = r.outputs.length ∧
      ∀ o ∈ r.outputs, o.fresh = true := by
  obtain ⟨-, -, houtputs, hgenerated, hreused, -⟩ := run_eq_ok hok
  have hrendered : ∀ d ∈ (p.survey candidates).drafts, p.isRendered d = true :=
    fun d _ => isRendered_of_stale h d
  refine ⟨?_, ?_, ?_⟩
  · rw [hreused, List.length_eq_zero_iff, List.filter_eq_nil_iff]
    intro d hd
    simp [hrendered d hd]
  · rw [hgenerated, List.filter_eq_self.2 hrendered, houtputs, outputs_afterPass, List.length_map,
      List.length_mergeSort]
  · intro o ho
    rw [houtputs, outputs_afterPass] at ho
    obtain ⟨d, hd, rfl⟩ := List.mem_map.1 ho
    exact (fresh_artifact p d).trans (hrendered d (List.mem_mergeSort.1 hd))

/-- A command that neither sets options nor runs a pass that goes through leaves stale artifacts
stale. -/
lemma perform_stale (h : p.isCurrent = false) {command : Command}
    (hoptions : command.options? = none)
    (hreport : (p.perform memo command).1.answer.isReport = false) :
    (p.perform memo command).2.1.isCurrent = false := by
  cases command with
  | add g =>
    cases hadd : p.add g with
    | ok next =>
      obtain ⟨-, hsame, -, hcached⟩ := add_eq_ok hadd
      simp only [perform, hadd, isCurrent, hsame, hcached]
      exact h
    | error e =>
      simp only [perform, hadd]
      exact h
  | configure o => cases hoptions
  | forget => rfl
  | run candidates =>
    show (p.run memo candidates).pipeline.isCurrent = false
    cases hrepeated : (p.survey candidates).repeated with
    | some key =>
      rw [(run_of_repeated hrepeated memo).2]
      exact h
    | none =>
      obtain ⟨⟨warnings, stats, hok⟩, -⟩ := run_of_distinct hrepeated memo
      simp [perform, hok, Answer.isReport] at hreport

/-- Artifacts stay stale until options are set or a pass goes through. -/
theorem after_stale (h : p.isCurrent = false) {steps : List Step}
    (hoptions : ∀ s ∈ steps, s.command.options? = none) (hpasses : p.passesIn steps = 0) :
    (p.after steps).isCurrent = false := by
  induction steps generalizing p with
  | nil => exact h
  | cons s steps ih =>
    rw [passesIn, Nat.add_eq_zero_iff] at hpasses
    have hreport : (p.perform s.memo s.command).1.answer.isReport = false := by
      simpa using hpasses.1
    refine ih (perform_stale h (hoptions s List.mem_cons_self) hreport) ?_ hpasses.2
    exact fun s' hs' => hoptions s' (List.mem_cons_of_mem _ hs')

/-! ## Changed options -/

/-- What a pass kept is stale under changed options. -/
lemma LatestPass.isCurrent_configure {history before : List Step}
    (h : p.LatestPass history before candidates r) {b : Options}
    (hb : b.ChangedFrom (p.after before).options) :
    ((p.after history).configure b).isCurrent = false := by
  have hcached : (p.after history).cachedUnder = some (p.after before).options.fingerprint :=
    h.cache_eq.2.1
  show ((p.after history).cachedUnder == some b.fingerprint) = false
  rw [hcached, beq_eq_false_iff_ne]
  exact fun heq => hb.fingerprint_ne (Option.some.inj heq)

/-- **Changed options flush what is kept.**  Options with the same toolchain have the same digest
only if they are the same, and options that differ in the toolchain alone only if the toolchains
have the same hash.  So if what a pipeline keeps was made under some options, and options are set
that are changed from these, the next pass that goes through takes nothing over and makes every
artifact anew, whatever is done in between. -/
theorem changed_options_flush :
    (∀ a b : Options, a.toolchain = b.toolchain → (a.fingerprint = b.fingerprint ↔ a = b)) ∧
    (∀ a b : Options, a.serialization = b.serialization → a.header = b.header →
      a.style = b.style →
        (a.fingerprint = b.fingerprint ↔
          TextHash.hash a.toolchain = TextHash.hash b.toolchain)) ∧
    ∀ (p : Pipeline) (history before : List Step) (candidates : List Candidate) (report : Report),
      p.LatestPass history before candidates report →
      ∀ b : Options, b.ChangedFrom (p.after before).options →
      ∀ later : List Step, (∀ s ∈ later, s.command.options? = none) →
        ((p.after history).configure b).passesIn later = 0 →
      ∀ (memo : ScanMemo) (candidates' : List Candidate) (next : Report),
        ((((p.after history).configure b).after later).run memo candidates').outcome = .ok next →
          next.stats.reused = 0 ∧ next.stats.generated = next.outputs.length ∧
            ∀ o ∈ next.outputs, o.fresh = true := by
  refine ⟨fun a b => Options.fingerprint_eq_iff, fun a b => Options.fingerprint_eq_iff_hash_eq, ?_⟩
  intro p history before candidates report hlatest b hb later hoptions hpasses memo candidates'
    next hok
  have hstale := after_stale (hlatest.isCurrent_configure hb) hoptions hpasses
  exact reuses_nothing hstale hok

end Pipeline

end Main

/-- Another toolchain is set, a pass fails and a generator is refused; then the same candidate is
made anew. -/
theorem Pipeline.changed_options_flush_toolchain :
    let c : Candidate := { name := "Lookup", markers := [.holder (.result "User" "String")] }
    let p := withDefaults {} {}
    let b : Options := { toolchain := "holdgen 0.2.0" }
    let later : List Step := [⟨.run [c, c], .empty⟩, ⟨.add Holder.generator, .empty⟩]
    (Options.fingerprint {} = b.fingerprint ↔ TextHash.hash "holdgen 0.1.0" =
        TextHash.hash "holdgen 0.2.0") ∧
      (Options.fingerprint {} = Options.fingerprint { serialization := ⟨0x80⟩ } ↔
        ({} : Options) = { serialization := ⟨0x80⟩ }) ∧
      ∃ report, p.LatestPass [⟨.run [c], .empty⟩] [] [c] report ∧ b.ChangedFrom p.options ∧
        (((p.after [⟨.run [c], .empty⟩]).configure b).passesIn later = 0) ∧
        ∃ next,
          ((((p.after [⟨.run [c], .empty⟩]).configure b).after later).run .empty [c]).outcome =
            .ok next ∧
          next.stats.reused = 0 ∧ next.stats.generated = next.outputs.length ∧
            ∀ o ∈ next.outputs, o.fresh = true := by
  intro c p b later
  obtain ⟨hsettings, htoolchain, hflush⟩ := changed_options_flush
  have hfirst : (p.survey [c]).repeated = none := by decide +kernel
  obtain ⟨⟨warnings, stats, hok⟩, -⟩ := run_of_distinct hfirst .empty
  have hlatest : p.LatestPass [⟨.run [c], .empty⟩] [] [c] _ := ⟨.empty, [], rfl, hok, trivial⟩
  have hchanged : b.ChangedFrom p.options := Or.inr ⟨rfl, rfl, rfl, by decide +kernel⟩
  have hoptions : ∀ s ∈ later, s.command.options? = none := by simp [later, Command.options?]
  have hpasses : ((p.after [⟨.run [c], .empty⟩]).configure b).passesIn later = 0 := by
    decide +kernel
  have hagain :
      ((((p.after [⟨.run [c], .empty⟩]).configure b).after later).survey [c]).repeated = none := by
    decide +kernel
  obtain ⟨⟨warnings', stats', hnext⟩, -⟩ := run_of_distinct hagain .empty
  exact ⟨htoolchain {} b rfl rfl rfl, hsettings _ _ rfl, _, hlatest, hchanged, hpasses, _, hnext,
    hflush p _ [] [c] _ hlatest b hchanged later hoptions hpasses .empty [c] _ hnext⟩

end Stencil
