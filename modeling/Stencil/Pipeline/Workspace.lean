import Stencil.Pipeline.Pass

/-!
# Workspaces

Pipelines are worked with by commands.  A workspace holds several pipelines, which either share
one memo of scans or have one each.
-/

namespace Stencil

/-- What a pipeline can be told to do. -/
inductive Command where
  | add (generator : Generator)
  | configure (options : Options)
  | forget
  | run (candidates : List Candidate)

/-- What a pipeline answers to a command. -/
inductive Answer where
  | added (result : Except Conflict Unit)
  /-- The digest of the options that were set. -/
  | configured (fingerprint : Digest)
  | forgotten
  | ran (result : Except Conflict Report)

/-- An answer, with the events on the way to it. -/
structure Reply where
  answer : Answer
  events : List Event

/-- Carries out a command on a pipeline with a memo of scans. -/
def Pipeline.perform [TextHash] (p : Pipeline) (memo : ScanMemo) :
    Command → Reply × Pipeline × ScanMemo
  | .add g =>
    match p.add g with
    | .ok next => (⟨.added (.ok ()), []⟩, next, memo)
    | .error e => (⟨.added (.error e), []⟩, p, memo)
  | .configure o => (⟨.configured o.fingerprint, []⟩, p.configure o, memo)
  | .forget => (⟨.forgotten, []⟩, p.forget, memo)
  | .run candidates =>
    let pass := p.run memo candidates
    (⟨.ran pass.outcome, pass.events⟩, pass.pipeline, pass.memo)

/-- Pipelines with their memos of scans. -/
structure Workspace where
  pipelines : List Pipeline
  memos : List ScanMemo
  /-- Whether all pipelines use the first memo. -/
  shared : Bool

namespace Workspace

/-- A workspace in which nothing has been scanned yet. -/
def ofPipelines (pipelines : List Pipeline) (shared : Bool) : Workspace where
  pipelines := pipelines
  memos := pipelines.map fun _ => ScanMemo.empty
  shared := shared

/-- Which memo a pipeline uses. -/
def memoIndex (w : Workspace) (index : Nat) : Nat := if w.shared then 0 else index

/-- A pipeline and the memo that it uses. -/
def get? (w : Workspace) (index : Nat) : Option (Pipeline × ScanMemo) := do
  let p ← w.pipelines[index]?
  let memo ← w.memos[w.memoIndex index]?
  return (p, memo)

/-- Carries out a command on one pipeline, if there is one of that number. -/
def perform? [TextHash] (w : Workspace) (index : Nat) (command : Command) :
    Option (Reply × Workspace) := do
  let (p, memo) ← w.get? index
  let (reply, p, memo) := p.perform memo command
  return (reply,
    { w with
      pipelines := w.pipelines.set index p
      memos := w.memos.set (w.memoIndex index) memo })

end Workspace

end Stencil
