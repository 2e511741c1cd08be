import Mathlib.Data.List.Forall2
import Stencil.Digest.Xxh64
import Stencil.Generator.Recipe
import Stencil.Proofs.Pipeline.Journal

/-!
# Shared memos and validation only observe

Pipelines that share a memo of scans work as if each of them were alone.  A step reads the memo
only to find open placeholders, and these go into warnings and nowhere else.  So whatever memos two
histories of one pipeline find, and whether its patterns are validated or not, they differ in their
warnings at most.  If no two patterns that are scanned have the same hash, a memo answers with the
scan of the pattern at hand, and then the warnings are the same too.

The main results are

* `Pipeline.replies_validating`: memos and validation change nothing but warnings;
* `Pipeline.replies_eq_of_holds`: memos that hold scans do not even change these;
* `Workspace.replies_eq_alone`: a pipeline in a workspace, and the same pipeline alone.
-/

namespace Stencil

/-! ## Everything but warnings -/

/-- A report without its warnings. -/
def Report.withoutWarnings (r : Report) : Report := { r with warnings := [] }

/-- Whether an event tells of open placeholders. -/
def Event.isUncovered : Event → Bool
  | .uncovered _ => true
  | _ => false

/-- An answer without warnings. -/
def Answer.withoutWarnings : Answer → Answer
  | .ran (.ok r) => .ran (.ok r.withoutWarnings)
  | answer => answer

/-- A reply without warnings, be they in the answer or in the events. -/
def Reply.withoutWarnings (r : Reply) : Reply where
  answer := r.answer.withoutWarnings
  events := r.events.filter fun e => !e.isUncovered

/-- A pipeline with validation switched on or off. -/
def Pipeline.validating (p : Pipeline) (validate : Bool) : Pipeline :=
  { p with config := { p.config with validateCoverage := validate } }

lemma filter_uncovered (warnings : List Warning) :
    (warnings.map Event.uncovered).filter (fun e => !e.isUncovered) = [] := by
  rw [List.filter_eq_nil_iff]
  intro e he
  obtain ⟨warning, -, rfl⟩ := List.mem_map.1 he
  exact Bool.false_ne_true

section Main

variable [TextHash]

namespace Pipeline

variable {p : Pipeline} {memo memo' : ScanMemo} {steps steps' : List Step} {texts : Set String}

/-! ## The configuration -/

/-- Commands do not change the configuration. -/
lemma Change.config_eq {next : Pipeline} {command : Command} (h : p.Change command next) :
    next.config = p.config := by
  cases h with
  | added hadd =>
    unfold add at hadd
    split at hadd
    · cases hadd
    · cases hadd
      rfl
  | refused => rfl
  | configured => rfl
  | forgotten => rfl
  | passed => rfl
  | failed => rfl

lemma config_after (p : Pipeline) (steps : List Step) : (p.after steps).config = p.config :=
  after_induction (motive := fun q => q.config = p.config) rfl fun _ _ _ _ hq hchange =>
    hchange.config_eq.trans hq

omit [TextHash] in
lemma validating_eq_self {validate : Bool} (h : p.config.validateCoverage = validate) :
    p.validating validate = p := by
  subst h
  rfl

/-! ## Memos and validation -/

omit [TextHash] in
lemma add_validating (p : Pipeline) (validate : Bool) (g : Generator) :
    (p.validating validate).add g = (p.add g).map fun next => next.validating validate := by
  by_cases h : g.name ∈ p.names
  · have h' : g.name ∈ (p.validating validate).names := h
    rw [add, dif_pos h', add, dif_pos h]
    rfl
  · have h' : g.name ∉ (p.validating validate).names := h
    rw [add, dif_neg h', add, dif_neg h]
    rfl

lemma run_validating (p : Pipeline) (validate : Bool) (memo memo' : ScanMemo)
    (candidates : List Candidate) :
    ((p.validating validate).perform memo' (.run candidates)).1.withoutWarnings =
        (p.perform memo (.run candidates)).1.withoutWarnings ∧
      ((p.validating validate).run memo' candidates).pipeline =
        (p.run memo candidates).pipeline.validating validate := by
  -- survey, verdicts and artifacts look at generators, options and what is kept only
  have hsurvey : (p.validating validate).survey candidates = p.survey candidates := rfl
  cases hrepeated : (p.survey candidates).repeated with
  | some key =>
    simp only [perform, run, hsurvey, hrepeated]
    exact ⟨rfl, trivial⟩
  | none =>
    simp only [perform, run, hsurvey, hrepeated, Reply.withoutWarnings, Answer.withoutWarnings,
      Report.withoutWarnings, List.filter_append, filter_uncovered]
    exact ⟨rfl, rfl⟩

/-- Whatever memo a command finds, and whether patterns are validated or not, the reply is the same
but for warnings, and so is the pipeline afterwards but for the switch. -/
lemma perform_validating (p : Pipeline) (validate : Bool) (memo memo' : ScanMemo)
    (command : Command) :
    ((p.validating validate).perform memo' command).1.withoutWarnings =
        (p.perform memo command).1.withoutWarnings ∧
      ((p.validating validate).perform memo' command).2.1 =
        (p.perform memo command).2.1.validating validate := by
  cases command with
  | add g =>
    have hadd := p.add_validating validate g
    cases h : p.add g with
    | ok next =>
      rw [h] at hadd
      simp only [perform, h, hadd]
      exact ⟨rfl, rfl⟩
    | error e =>
      rw [h] at hadd
      simp only [perform, h, hadd]
      exact ⟨rfl, rfl⟩
  | configure o => exact ⟨rfl, rfl⟩
  | forget => exact ⟨rfl, rfl⟩
  | run candidates => exact p.run_validating validate memo memo' candidates

/-- Two histories with the same commands differ in their warnings at most, whatever memos they find
and whether patterns are validated or not. -/
theorem replies_validating (p : Pipeline) (validate : Bool)
    (h : List.Forall₂ (fun s s' => s.command = s'.command) steps steps') :
    ((p.validating validate).replies steps').map Reply.withoutWarnings =
        (p.replies steps).map Reply.withoutWarnings ∧
      (p.validating validate).after steps' = (p.after steps).validating validate := by
  induction h generalizing p with
  | nil => exact ⟨rfl, rfl⟩
  | @cons s s' steps steps' hs _ ih =>
    obtain ⟨hreply, hnext⟩ := p.perform_validating validate s.memo s'.memo s.command
    obtain ⟨hreplies, hafter⟩ := ih (p.perform s.memo s.command).2.1
    rw [← hnext] at hreplies hafter
    constructor
    · rw [replies, replies, ← hs, List.map_cons, List.map_cons, hreply, hreplies]
    · show (((p.validating validate).perform s'.memo s'.command).2.1).after steps' = _
      rw [← hs]
      exact hafter

/-! ## Warnings -/

lemma warnings_eq (h : memo.Holds texts) (hinj : Set.InjOn TextHash.hash texts)
    (h' : memo'.Holds texts) {drafts : List Draft} (hdrafts : p.config.validateCoverage = true →
      ∀ d ∈ drafts, d.pattern ∈ texts) :
    (p.warnings memo drafts).1 = (p.warnings memo' drafts).1 := by
  by_cases hvalidate : p.config.validateCoverage = true
  · rw [warnings, warnings, if_pos hvalidate, if_pos hvalidate,
      (audit_eq h hinj (hdrafts hvalidate)).1, (audit_eq h' hinj (hdrafts hvalidate)).1]
  · rw [warnings, warnings, if_neg hvalidate, if_neg hvalidate]

/-- Memos that hold scans of the patterns that a command scans lead to the same reply, and to the
same pipeline afterwards. -/
lemma perform_eq_of_holds (hinj : Set.InjOn TextHash.hash texts) (h : memo.Holds texts)
    (h' : memo'.Holds texts) {command : Command} (hscans : ∀ text ∈ p.scans command, text ∈ texts) :
    (p.perform memo' command).1 = (p.perform memo command).1 ∧
      (p.perform memo' command).2.1 = (p.perform memo command).2.1 := by
  cases command with
  | add g => cases hadd : p.add g <;> simp [perform, hadd]
  | configure o => exact ⟨rfl, rfl⟩
  | forget => exact ⟨rfl, rfl⟩
  | run candidates =>
    cases hrepeated : (p.survey candidates).repeated with
    | some key => simp [perform, run, hrepeated]
    | none =>
      have hwarnings : (p.warnings memo' ((p.survey candidates).drafts.filter p.isRendered)).1 =
          (p.warnings memo ((p.survey candidates).drafts.filter p.isRendered)).1 := by
        refine warnings_eq h' hinj h fun hvalidate d hd => hscans _ (List.mem_map_of_mem ?_)
        rwa [audited, if_pos ⟨hvalidate, hrepeated⟩]
      simp [perform, run, hrepeated, hwarnings]

/-- The pipeline after a command does not depend on the memo that the command finds. -/
lemma perform_pipeline_eq (p : Pipeline) (memo memo' : ScanMemo) (command : Command) :
    (p.perform memo' command).2.1 = (p.perform memo command).2.1 := by
  have hconfig := (perform_change p memo command).config_eq
  have hnext := (p.perform_validating p.config.validateCoverage memo memo' command).2
  rwa [validating_eq_self rfl, validating_eq_self (by rw [hconfig])] at hnext

/-- What is scanned in a history does not depend on the memos that it finds. -/
lemma scanned_eq (p : Pipeline)
    (h : List.Forall₂ (fun s s' => s.command = s'.command) steps steps') :
    p.scanned steps' = p.scanned steps := by
  induction h generalizing p with
  | nil => rfl
  | @cons s s' _ _ hs _ ih => rw [scanned, scanned, ← hs, perform_pipeline_eq p s.memo, ih]

/-- Two histories with the same commands, whose memos hold scans of all that is scanned, have the
same replies. -/
theorem replies_eq_of_holds (p : Pipeline) (hinj : Set.InjOn TextHash.hash texts)
    (h : List.Forall₂ (fun s s' => s.command = s'.command) steps steps')
    (hscanned : ∀ text ∈ p.scanned steps, text ∈ texts)
    (hholds : ∀ s ∈ steps, s.memo.Holds texts) (hholds' : ∀ s ∈ steps', s.memo.Holds texts) :
    p.replies steps' = p.replies steps := by
  induction h generalizing p with
  | nil => rfl
  | cons hs _ ih =>
    rw [scanned] at hscanned
    rw [List.forall_mem_cons] at hholds hholds'
    obtain ⟨hreply, hnext⟩ := perform_eq_of_holds hinj hholds.1 hholds'.1 fun text htext =>
      hscanned text (List.mem_append_left _ htext)
    have hrest := ih _ (fun text htext => hscanned text (List.mem_append_right _ htext)) hholds.2
      hholds'.2
    rw [replies, replies, ← hs, hreply, hnext, hrest]

/-! ## Validation switched off -/

omit [TextHash] in
lemma filter_map_of_covered {α : Type} {f : α → Event} (h : ∀ x, (f x).isUncovered = false)
    (l : List α) : (l.map f).filter (fun e => !e.isUncovered) = l.map f := by
  rw [List.filter_eq_self]
  intro e he
  obtain ⟨x, -, rfl⟩ := List.mem_map.1 he
  rw [h]
  rfl

lemma filter_openingEvents (p : Pipeline) (skips : Survey) :
    (p.openingEvents ++ skips.events).filter (fun e => !e.isUncovered) =
      p.openingEvents ++ skips.events := by
  have hopening : p.openingEvents.filter (fun e => !e.isUncovered) = p.openingEvents := by
    unfold openingEvents
    split <;> rfl
  rw [List.filter_append, hopening, Survey.events, filter_map_of_covered fun _ => rfl]

lemma isUncovered_verdictEvent (p : Pipeline) (d : Draft) :
    (p.verdictEvent d).isUncovered = false := by
  unfold verdictEvent
  cases p.verdict d <;> rfl

/-- Without validation a pass does not warn, and the memo stays as it is. -/
lemma run_of_not_validating (h : p.config.validateCoverage = false) (memo : ScanMemo)
    (candidates : List Candidate) :
    (p.perform memo (.run candidates)).1.withoutWarnings =
        (p.perform memo (.run candidates)).1 ∧
      (p.run memo candidates).memo = memo := by
  cases hrepeated : (p.survey candidates).repeated with
  | some key =>
    simp only [perform, run, hrepeated, Reply.withoutWarnings, filter_openingEvents]
    exact ⟨rfl, trivial⟩
  | none =>
    simp only [perform, run, hrepeated, warnings, h, Bool.false_eq_true, if_false,
      Reply.withoutWarnings, List.filter_append (_ ++ _ ++ _ ++ _),
      List.filter_append (_ ++ _ ++ _), List.filter_append (_ ++ _), filter_openingEvents,
      filter_map_of_covered (isUncovered_verdictEvent p), filter_uncovered,
      filter_map_of_covered (f := Event.removed) fun _ => rfl]
    exact ⟨rfl, trivial⟩

/-- Without validation no command leads to a warning, and the memo stays as it is. -/
lemma perform_of_not_validating (h : p.config.validateCoverage = false) (memo : ScanMemo)
    (command : Command) :
    (p.perform memo command).1.withoutWarnings = (p.perform memo command).1 ∧
      (p.perform memo command).2.2 = memo := by
  cases command with
  | add g =>
    cases hadd : p.add g <;> simp only [perform, hadd] <;> exact ⟨rfl, trivial⟩
  | configure o => exact ⟨rfl, rfl⟩
  | forget => exact ⟨rfl, rfl⟩
  | run candidates => exact run_of_not_validating h memo candidates

lemma replies_of_not_validating (h : p.config.validateCoverage = false) {steps : List Step}
    {reply : Reply} (hreply : reply ∈ p.replies steps) : reply.withoutWarnings = reply := by
  induction steps generalizing p with
  | nil => cases hreply
  | cons s steps ih =>
    rcases List.mem_cons.1 hreply with rfl | hreply
    · exact (perform_of_not_validating h s.memo s.command).1
    · have hconfig := (perform_change p s.memo s.command).config_eq
      exact ih (hconfig ▸ h) hreply

end Pipeline

namespace Workspace

variable {index : Nat} {p : Pipeline} {w : Workspace} {history : List Request}

/-! ## Alone -/

/-- The commands of a history to one pipeline, as requests to the only pipeline of a workspace. -/
def own (index : Nat) (history : List Request) : List Request :=
  (commandsTo index history).map fun command => ⟨0, command⟩

omit [TextHash] in
lemma commandsTo_own (index : Nat) (history : List Request) :
    commandsTo 0 (own index history) = commandsTo index history := by
  have hall : (own index history).filter (fun r => r.index = 0) = own index history := by
    rw [List.filter_eq_self]
    intro r hr
    obtain ⟨command, -, rfl⟩ := List.mem_map.1 hr
    rfl
  rw [commandsTo, hall, own, List.map_map]
  exact List.map_id _

omit [TextHash] in
lemma index_eq_zero_of_mem_own {r : Request} (hr : r ∈ own index history) : r.index = 0 := by
  obtain ⟨command, -, rfl⟩ := List.mem_map.1 hr
  rfl

/-- A pipeline alone and the same pipeline in a workspace take steps with the same commands. -/
lemma Follows.forall₂_own {w' : Workspace} {p' : Pipeline} {steps steps' : List Step}
    (h : w.Follows index p history steps) (h' : w'.Follows 0 p' (own index history) steps') :
    List.Forall₂ (fun s s' => s.command = s'.command) steps steps' := by
  have hcommands : steps.map Step.command = steps'.map Step.command := by
    rw [h.commands, h'.commands, commandsTo_own]
  rwa [← List.forall₂_eq_eq_eq, List.forall₂_map_left_iff, List.forall₂_map_right_iff]
    at hcommands

/-- A request to a pipeline that does not validate leaves all memos as they are. -/
lemma Hosts.memos_handle (h : w.Hosts index p) (hvalidate : p.config.validateCoverage = false)
    (command : Command) : (w.handle ⟨index, command⟩).after.memos = w.memos := by
  obtain ⟨memo, hmemo, -, -, hafter⟩ := h.handle_own command
  rw [hafter, (Pipeline.perform_of_not_validating hvalidate memo command).2,
    set_of_getElem? hmemo]

/-- **A shared memo and validation only observe.**  In every history of every workspace, whether its
pipelines share a memo or not, a pipeline replies as it does alone, with a memo of its own and with
validation switched on or off, and it is the same afterwards; only the warnings may differ.  If it
does not validate, it never warns, and no memo is changed.  If no two of the patterns that are
scanned have the same hash, the warnings are the same as well. -/
theorem replies_eq_alone (pipelines : List Pipeline) (shared : Bool) (history : List Request)
    (hp : pipelines[index]? = some p) :
    let w := ofPipelines pipelines shared
    let alone := fun validate => ofPipelines [p.validating validate] false
    (∀ validate,
      (repliesTo 0 ((alone validate).journal (own index history))).map
            (Option.map Reply.withoutWarnings) =
          (repliesTo index (w.journal history)).map (Option.map Reply.withoutWarnings) ∧
        ∃ q, (w.after history).pipelines[index]? = some q ∧
          ((alone validate).after (own index history)).pipelines[0]? =
            some (q.validating validate)) ∧
    (p.config.validateCoverage = false →
      (∀ reply, some reply ∈ repliesTo index (w.journal history) →
          reply.withoutWarnings = reply) ∧
        ∀ command,
          ((w.after history).handle ⟨index, command⟩).after.memos = (w.after history).memos) ∧
    (Set.InjOn TextHash.hash {text | text ∈ w.scanned history} →
      repliesTo 0 ((ofPipelines [p] false).journal (own index history)) =
        repliesTo index (w.journal history)) := by
  intro w alone
  have hhosts : w.Hosts index p := hosts_ofPipelines hp shared
  obtain ⟨steps, hsteps⟩ := hhosts.exists_follows history
  refine ⟨fun validate => ?_, fun hvalidate => ⟨fun reply hreply => ?_, fun command => ?_⟩,
    fun hinj => ?_⟩
  · have halone : (alone validate).Hosts 0 (p.validating validate) := hosts_ofPipelines rfl false
    obtain ⟨steps', hsteps'⟩ := halone.exists_follows (own index history)
    obtain ⟨hreplies, hafter⟩ := p.replies_validating validate (hsteps.forall₂_own hsteps')
    refine ⟨?_, p.after steps, hsteps.after.pipeline, ?_⟩
    · have hsome := congrArg (List.map some) hreplies
      rw [List.map_map, List.map_map] at hsome
      rw [hsteps'.replies, hsteps.replies, List.map_map, List.map_map]
      exact hsome
    · rw [hsteps'.after.pipeline, hafter]
  · rw [hsteps.replies] at hreply
    obtain ⟨reply', hmem, heq⟩ := List.mem_map.1 hreply
    obtain rfl := Option.some.inj heq
    exact Pipeline.replies_of_not_validating hvalidate hmem
  · refine hsteps.after.memos_handle ?_ command
    rw [Pipeline.config_after, hvalidate]
  · have halone : (ofPipelines [p] false).Hosts 0 p := hosts_ofPipelines rfl false
    obtain ⟨steps', hsteps'⟩ := halone.exists_follows (own index history)
    have hcommands := hsteps.forall₂_own hsteps'
    have hscanned : ∀ text ∈ (ofPipelines [p] false).scanned (own index history),
        text ∈ w.scanned history := by
      rw [hsteps'.scanned_of_own fun r => index_eq_zero_of_mem_own, p.scanned_eq hcommands]
      exact hsteps.scanned
    have hholds := hsteps.holds _ hinj (remembers_ofPipelines _ pipelines shared) fun _ h => h
    have hholds' := hsteps'.holds _ hinj (remembers_ofPipelines _ [p] false) hscanned
    rw [hsteps'.replies, hsteps.replies,
      p.replies_eq_of_holds hinj hcommands hsteps.scanned hholds hholds']

end Workspace

end Main

/-- Two pipelines with the same generator of open holes share a memo, and only the first validates;
a generator is refused, a pass fails, and the second pipeline fills the same pattern in another
style. -/
theorem Workspace.replies_eq_alone_shared :
    let note : Generator := Recipe.generator
      { name := "note", kind := .optionHolder, pattern := "\x7bName\x7d: \x7bText\x7d"
        suffix := "note" }
    let p : Pipeline := .empty {} {}
    let q : Pipeline := .empty { style := .simple } { validateCoverage := false }
    let c : Candidate := { name := "Lookup" }
    let w := ofPipelines [p, q] true
    let history : List Request :=
      [⟨0, .add note⟩, ⟨1, .add note⟩, ⟨1, .run [c]⟩, ⟨0, .run [c, c]⟩, ⟨1, .add note⟩,
        ⟨0, .run [c]⟩]
    (repliesTo 0 ((ofPipelines [p.validating false] false).journal (own 0 history))).map
          (Option.map Reply.withoutWarnings) =
        (repliesTo 0 (w.journal history)).map (Option.map Reply.withoutWarnings) ∧
      q.config.validateCoverage = false ∧
      (∀ reply, some reply ∈ repliesTo 1 (w.journal history) → reply.withoutWarnings = reply) ∧
      Set.InjOn TextHash.hash {text | text ∈ w.scanned history} ∧
      repliesTo 0 ((ofPipelines [p] false).journal (own 0 history)) =
        repliesTo 0 (w.journal history) := by
  intro note p q c w history
  have hhash : ∀ s ∈ w.scanned history, ∀ t ∈ w.scanned history,
      TextHash.hash s = TextHash.hash t → s = t := by decide +kernel
  have hinj : Set.InjOn TextHash.hash {text | text ∈ w.scanned history} :=
    fun s hs t ht h => hhash s hs t ht h
  have hp : [p, q][0]? = some p := rfl
  have hq : [p, q][1]? = some q := rfl
  obtain ⟨hsame, -, hwarnings⟩ := replies_eq_alone [p, q] true history hp
  obtain ⟨-, hsilent, -⟩ := replies_eq_alone [p, q] true history hq
  exact ⟨(hsame false).1, rfl, (hsilent rfl).1, hinj, hwarnings hinj⟩

end Stencil
