import Stencil.Pipeline.Report
import Stencil.Text.Record

/-!
# Events

What a pass tells about its course: each event has a level, a message, and named fields.
-/

namespace Stencil

/-- How much an event matters. -/
inductive Level where
  | trace
  | debug
  | info
  | warn
deriving DecidableEq

/-- The name of a level. -/
def Level.name : Level → String
  | trace => "TRACE"
  | debug => "DEBUG"
  | info => "INFO"
  | warn => "WARN"

/-- One thing that happened in a pass. -/
inductive Event where
  /-- The kept artifacts were made under other options. -/
  | optionsChanged (cached : Nat)
  /-- A generator made nothing of a candidate. -/
  | skipped (generator : String) (reason : Skip)
  /-- A kept artifact still holds. -/
  | reused (key : ArtifactKey)
  /-- An artifact is made; `changed` says whether it replaces a kept one. -/
  | rendering (key : ArtifactKey) (changed : Bool)
  /-- A made artifact has open placeholders. -/
  | uncovered (warning : Warning)
  /-- A kept artifact is gone. -/
  | removed (key : ArtifactKey)
  /-- The pass of a number is over. -/
  | finished (pass : Nat) (stats : Stats)
deriving DecidableEq

namespace Event

/-- The level of an event. -/
def level : Event → Level
  | skipped .. => .trace
  | uncovered _ => .warn
  | finished .. => .info
  | _ => .debug

/-- The message of an event. -/
def message : Event → String
  | optionsChanged _ => "generator options changed, regenerating every artifact"
  | skipped .. => "candidate skipped"
  | reused _ => "reusing cached output"
  | rendering .. => "rendering artifact"
  | uncovered _ => "pattern references placeholders without a value"
  | removed _ => "artifact removed"
  | finished .. => "generation pass finished"

/-- The fields that name an artifact. -/
def keyFields (key : ArtifactKey) : List (String × String) :=
  [("generator", key.generator), ("identity", key.identity)]

/-- The fields of an event with their texts. -/
def fields : Event → List (String × String)
  | optionsChanged cached => [("cached", toString cached)]
  | skipped generator reason => [("generator", generator), ("reason", reason.message)]
  | reused key => keyFields key
  | rendering key changed => keyFields key ++ [("changed", Text.truth changed)]
  | uncovered warning => keyFields warning.key ++ [("missing", warning.locations)]
  | removed key => keyFields key
  | finished pass stats =>
    [("pass", toString pass), ("candidates", toString stats.candidates),
      ("generated", toString stats.generated), ("reused", toString stats.reused),
      ("skipped", toString stats.skipped), ("removed", toString stats.removed)]

end Event

end Stencil
