import Stencil.Pipeline.Defaults
import Stencil.Pipeline.Workspace
import Stencil.Proofs.Pipeline.Pass

/-!
# Histories of a pipeline

A history is a list of commands.  Each command finds a memo of scans, and as other pipelines may
use the same memo in between, nothing is assumed about it.

`Change` lists what a command can make of a pipeline.  A property that every change keeps holds
after every history (`Pipeline.after_induction`), so that an invariant is proved by going through
the changes once.
-/

namespace Stencil

/-- A command, and the remembered scans that it finds. -/
structure Step where
  command : Command
  memo : ScanMemo

/-- The options that a command sets. -/
def Command.options? : Command → Option Options
  | configure o => some o
  | _ => none

namespace Pipeline

/-- A pipeline as it is created, without generators or with the default ones. -/
inductive Created : Pipeline → Prop
  | empty (o : Options) (config : Config) : Created (Pipeline.empty o config)
  | withDefaults (o : Options) (config : Config) : Created (Pipeline.withDefaults o config)

/-- All options that a pipeline has in a history: those at its start and those set later. -/
def optionsIn (p : Pipeline) (history : List Step) : List Options :=
  p.options :: history.filterMap fun step => step.command.options?

lemma Created.cache_eq {p : Pipeline} (h : p.Created) : p.cache = Table.empty := by
  cases h <;> rfl

/-! ## Adding generators -/

lemma add_eq_ok {p next : Pipeline} {g : Generator} (h : p.add g = .ok next) :
    next.generators = p.generators ++ [g] ∧ next.options = p.options ∧ next.cache = p.cache ∧
      next.cachedUnder = p.cachedUnder := by
  unfold add at h
  split at h
  · cases h
  · cases h
    exact ⟨rfl, rfl, rfl, rfl⟩

/-- The pipeline as it would be if its generators had just been added to a new one. -/
def renewed (p : Pipeline) : Pipeline :=
  { empty p.options p.config with generators := p.generators, distinct := p.distinct }

lemma foldlM_add {p : Pipeline} {gs : List Generator}
    (h : ((p.generators ++ gs).map Generator.name).Nodup) :
    gs.foldlM add p = .ok { p with generators := p.generators ++ gs, distinct := h } := by
  induction gs generalizing p with
  | nil => simp [pure, Except.pure]
  | cons g gs ih =>
    have hname : g.name ∉ p.names := by
      rw [List.map_append, List.map_cons, List.nodup_append] at h
      exact fun hmem => h.2.2 _ hmem _ List.mem_cons_self rfl
    rw [List.foldlM_cons, add, dif_neg hname]
    show gs.foldlM add _ = _
    rw [ih (by simpa using h)]
    simp

/-- A new pipeline takes the generators of a pipeline one after the other. -/
lemma foldlM_add_renewed (p : Pipeline) :
    p.generators.foldlM add (empty p.options p.config) = .ok p.renewed :=
  foldlM_add (p := empty p.options p.config) p.distinct

/-! ## Changes -/

variable [TextHash]

/-- What a command can make of a pipeline. -/
inductive Change (p : Pipeline) : Command → Pipeline → Prop
  | added {g : Generator} {next : Pipeline} (h : p.add g = .ok next) : Change p (.add g) next
  | refused {g : Generator} {e : Conflict} (h : p.add g = .error e) : Change p (.add g) p
  | configured (o : Options) : Change p (.configure o) (p.configure o)
  | forgotten : Change p .forget p.forget
  | passed {candidates : List Candidate} (h : (p.survey candidates).repeated = none) :
      Change p (.run candidates) (p.afterPass (p.survey candidates).drafts)
  | failed {candidates : List Candidate} {key : ArtifactKey}
      (h : (p.survey candidates).repeated = some key) : Change p (.run candidates) p

lemma perform_change (p : Pipeline) (memo : ScanMemo) (command : Command) :
    p.Change command (p.perform memo command).2.1 := by
  cases command with
  | add g =>
    cases h : p.add g with
    | ok next =>
      simp only [perform, h]
      exact .added h
    | error e =>
      simp only [perform, h]
      exact .refused h
  | configure o => exact .configured o
  | forget => exact .forgotten
  | run candidates =>
    show p.Change _ (p.run memo candidates).pipeline
    cases h : (p.survey candidates).repeated with
    | none =>
      rw [(run_of_distinct h memo).2]
      exact .passed h
    | some key =>
      rw [(run_of_repeated h memo).2]
      exact .failed h

/-- The pipeline after a history. -/
def after (p : Pipeline) (history : List Step) : Pipeline :=
  history.foldl (fun p step => (p.perform step.memo step.command).2.1) p

lemma after_append (p : Pipeline) (history later : List Step) :
    p.after (history ++ later) = (p.after history).after later := List.foldl_append

lemma after_concat (p : Pipeline) (history : List Step) (s : Step) :
    p.after (history ++ [s]) = ((p.after history).perform s.memo s.command).2.1 := by
  rw [after_append]
  rfl

/-- What holds at the start and is kept by every change that a command of the history makes holds
after the history. -/
theorem after_induction {motive : Pipeline → Prop} {p : Pipeline} {history : List Step}
    (start : motive p)
    (step : ∀ s ∈ history, ∀ {q next : Pipeline},
      motive q → q.Change s.command next → motive next) :
    motive (p.after history) := by
  induction history generalizing p with
  | nil => exact start
  | cons s history ih =>
    refine ih ?_ fun s' hs' => step s' (List.mem_cons_of_mem _ hs')
    exact step s List.mem_cons_self start (perform_change p s.memo s.command)

/-! ## The generators of a pipeline -/

/-- Only a command that adds a generator changes the generators of a pipeline. -/
lemma Change.generators_eq {p next : Pipeline} {command : Command} (h : p.Change command next)
    (hadd : ∀ g, command ≠ .add g) : next.generators = p.generators := by
  cases h with
  | added => exact absurd rfl (hadd _)
  | refused => rfl
  | configured => rfl
  | forgotten => rfl
  | passed => rfl
  | failed => rfl

lemma generators_run (p : Pipeline) (memo : ScanMemo) (candidates : List Candidate) :
    (p.run memo candidates).pipeline.generators = p.generators :=
  (p.perform_change memo (.run candidates)).generators_eq fun _ h => by cases h

/-- In a history that adds none, a pipeline has its generators from the start. -/
lemma generators_after {p : Pipeline} {history : List Step}
    (hadd : ∀ s ∈ history, ∀ g, s.command ≠ .add g) :
    (p.after history).generators = p.generators :=
  after_induction (motive := fun q => q.generators = p.generators) rfl fun s hs _ _ hq hchange =>
    (hchange.generators_eq (hadd s hs)).trans hq

end Pipeline

end Stencil
