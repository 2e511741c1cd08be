import Mathlib.Tactic.Lemma
import Stencil.Pipeline.Workspace

/-!
# Failed commands leave no trace

A command fails if it adds a generator whose name is taken, or if it runs a pass that ends in a
conflict.  Such a command changes neither its pipeline nor the memo of scans that the pipeline may
share with others.  So the failed commands can be struck from a history, and nothing that is
answered to the other commands, or can be seen of the workspace after them, is different.

The main results are

* `Pipeline.perform_of_failed`: a failed command leaves pipeline and memo as they were;
* `Workspace.journal_without_failures`: the journal of a history without its failed commands.
-/

namespace Stencil

/-- Whether an answer tells of a failure. -/
def Answer.failed : Answer → Bool
  | .added (.error _) => true
  | .ran (.error _) => true
  | _ => false

namespace Pipeline

variable [TextHash] {p : Pipeline} {memo : ScanMemo}

lemma run_of_error {candidates : List Candidate} {e : Conflict}
    (h : (p.run memo candidates).outcome = .error e) :
    (p.run memo candidates).pipeline = p ∧ (p.run memo candidates).memo = memo := by
  cases hsurvey : (p.survey candidates).repeated with
  | some key => simp [run, hsurvey]
  | none => simp [run, hsurvey] at h

/-- A failed command leaves the pipeline and the memo as they were. -/
theorem perform_of_failed {command : Command}
    (h : (p.perform memo command).1.answer.failed = true) :
    (p.perform memo command).2 = (p, memo) := by
  cases command with
  | add g =>
    cases hadd : p.add g with
    | ok next => simp [perform, hadd, Answer.failed] at h
    | error e => simp [perform, hadd]
  | configure o => simp [perform, Answer.failed] at h
  | forget => simp [perform, Answer.failed] at h
  | run candidates =>
    cases hrun : (p.run memo candidates).outcome with
    | ok r => simp [perform, hrun, Answer.failed] at h
    | error e =>
      obtain ⟨hpipeline, hmemo⟩ := run_of_error hrun
      show ((p.run memo candidates).pipeline, (p.run memo candidates).memo) = (p, memo)
      rw [hpipeline, hmemo]

end Pipeline

namespace Workspace

/-! ## Journals -/

/-- A command for the pipeline of a number. -/
structure Request where
  index : Nat
  command : Command

/-- What came of a request: the reply, if there is a pipeline of that number, and the workspace
afterwards, with all that its pipelines keep and its memos remember. -/
structure Entry where
  request : Request
  reply : Option Reply
  after : Workspace

/-- Whether the reply to a request tells of a failure. -/
def Entry.failed (e : Entry) : Bool := e.reply.any fun reply => reply.answer.failed

lemma set_of_getElem? {α : Type} {l : List α} {i : Nat} {x : α} (h : l[i]? = some x) :
    l.set i x = l := by
  obtain ⟨hi, rfl⟩ := List.getElem?_eq_some_iff.1 h
  exact List.set_getElem_self hi

variable [TextHash]

/-- A command changes its pipeline and the memo that this uses, and nothing else. -/
lemma perform?_eq_some {w next : Workspace} {index : Nat} {command : Command} {reply : Reply}
    (h : w.perform? index command = some (reply, next)) :
    ∃ (p : Pipeline) (memo : ScanMemo), w.pipelines[index]? = some p ∧
      w.memos[w.memoIndex index]? = some memo ∧ reply = (p.perform memo command).1 ∧
      next = { w with
        pipelines := w.pipelines.set index (p.perform memo command).2.1
        memos := w.memos.set (w.memoIndex index) (p.perform memo command).2.2 } := by
  rw [perform?, Option.bind_eq_bind, Option.bind_eq_some_iff] at h
  obtain ⟨⟨_, _⟩, hget, hresult⟩ := h
  simp only [get?, Option.bind_eq_bind, Option.bind_eq_some_iff, Option.pure_def,
    Option.some.injEq, Prod.mk.injEq] at hget
  obtain ⟨p, hp, memo, hmemo, rfl, rfl⟩ := hget
  obtain ⟨rfl, rfl⟩ := Prod.mk.inj (Option.some.inj hresult)
  exact ⟨p, memo, hp, hmemo, rfl, rfl⟩

/-- Carries out a request; nothing happens if there is no pipeline of its number. -/
def handle (w : Workspace) (r : Request) : Entry :=
  match w.perform? r.index r.command with
  | some (reply, next) => ⟨r, some reply, next⟩
  | none => ⟨r, none, w⟩

/-- Carries out requests one after the other. -/
def journal (w : Workspace) : List Request → List Entry
  | [] => []
  | r :: rest => w.handle r :: (w.handle r).after.journal rest

lemma request_handle (w : Workspace) (r : Request) : (w.handle r).request = r := by
  unfold handle
  split <;> rfl

/-- A failed request leaves the workspace as it was. -/
lemma after_handle_of_failed {w : Workspace} {r : Request} (h : (w.handle r).failed = true) :
    (w.handle r).after = w := by
  cases hperform : w.perform? r.index r.command with
  | none => rw [handle, hperform]
  | some result =>
    obtain ⟨reply, next⟩ := result
    have hhandle : w.handle r = ⟨r, some reply, next⟩ := by rw [handle, hperform]
    obtain ⟨p, memo, hp, hmemo, hreply, hnext⟩ := perform?_eq_some hperform
    have hfailed : (p.perform memo r.command).1.answer.failed = true := by
      rw [hhandle] at h
      exact hreply ▸ h
    rw [Pipeline.perform_of_failed hfailed, set_of_getElem? hp, set_of_getElem? hmemo] at hnext
    rw [hhandle]
    exact hnext

/-- **Failed commands leave no trace.**  A history without its failed requests has the journal of
the history without the entries of these requests: every other request gets the same reply and is
followed by the same workspace. -/
theorem journal_without_failures (w : Workspace) (history : List Request) :
    let kept := (w.journal history).filter fun e => !e.failed
    w.journal (kept.map Entry.request) = kept := by
  intro kept
  induction history generalizing w with
  | nil => rfl
  | cons r rest ih =>
    cases hfailed : (w.handle r).failed with
    | true =>
      have hkept : kept = ((w.handle r).after.journal rest).filter fun e => !e.failed := by
        simp [kept, journal, hfailed]
      rw [hkept, after_handle_of_failed hfailed]
      exact ih w
    | false =>
      have hkept : kept =
          w.handle r :: ((w.handle r).after.journal rest).filter fun e => !e.failed := by
        simp [kept, journal, hfailed]
      rw [hkept, List.map_cons, request_handle, journal, ih (w.handle r).after]

end Workspace

end Stencil
