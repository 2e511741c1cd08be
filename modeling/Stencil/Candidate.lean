/-!
# Candidates

A candidate is a declaration that artifacts may be made for.  What is known of it is recorded as
facts: its name, the modules around it, its type parameters, its visibility, the markers it
carries, and the sequences it declares.
-/

namespace Stencil

/-- From where a declaration can be seen. -/
inductive Visibility where
  | exported
  | crateWide
  | unexported
deriving DecidableEq

namespace Visibility

/-- The words that declare a visibility. -/
def keyword : Visibility → String
  | exported => "pub"
  | crateWide => "pub(crate)"
  | unexported => ""

/-- The words that declare a visibility, with a blank behind them if there are any. -/
def lead : Visibility → String
  | exported => "pub "
  | crateWide => "pub(crate) "
  | unexported => ""

end Visibility

/-- What a holder holds: one of two results, a value or none, or one of several cases. -/
inductive Holding where
  | result (ok err : String)
  | option (value : String)
  | cases (types : List String)
deriving DecidableEq

/-- What a value object wraps, and whether values are validated first. -/
structure Wrapping where
  inner : String
  validated : Bool
deriving DecidableEq

/-- The families that markers fall into; each is served by one generator. -/
inductive Family where
  | holder
  | valueObject
  | sequence
deriving DecidableEq

/-- A marker on a declaration: what should be made of it. -/
inductive Marker where
  | holder (holding : Holding)
  | valueObject (wrapping : Wrapping)
  | sequenceCollector
deriving DecidableEq

namespace Marker

/-- The family of a marker. -/
def family : Marker → Family
  | holder _ => .holder
  | valueObject _ => .valueObject
  | sequenceCollector => .sequence

/-- What the marker of a holder holds. -/
def holding? : Marker → Option Holding
  | holder holding => some holding
  | _ => none

/-- What the marker of a value object wraps. -/
def wrapping? : Marker → Option Wrapping
  | valueObject wrapping => some wrapping
  | _ => none

/-- The name of a marker. -/
def name : Marker → String
  | holder (.result ..) => "ResultHolder"
  | holder (.option _) => "OptionHolder"
  | holder (.cases _) => "MultiResultHolder"
  | valueObject ⟨_, false⟩ => "ValueObject"
  | valueObject ⟨_, true⟩ => "ValidatableValueObject"
  | sequenceCollector => "SequenceCollector"

/-- The type arguments of a marker, if it takes any. -/
def arguments? : Marker → Option (List String)
  | holder (.result ok err) => some [ok, err]
  | holder (.option value) => some [value]
  | holder (.cases types) => some types
  | valueObject wrapping => some [wrapping.inner]
  | sequenceCollector => none

/-- A marker as it is written: its name, with its type arguments in angle brackets. -/
def display (m : Marker) : String :=
  match m.arguments? with
  | some arguments => m.name ++ "<" ++ ", ".intercalate arguments ++ ">"
  | none => m.name

end Marker

/-- A sequence of numbers that a database hands out. -/
structure NumberSequence where
  name : String
  schema : Option String := none
  start : Int64 := 1
  increment : Int64 := 1
deriving DecidableEq

/-- What is known of a declaration. -/
structure Candidate where
  name : String
  /-- The modules around the declaration, the outermost first. -/
  modules : List String := []
  typeParams : List String := []
  visibility : Visibility := .exported
  markers : List Marker := []
  sequences : List NumberSequence := []
  /-- Whether values of the wrapped type can be displayed. -/
  display : Bool := false
deriving DecidableEq

namespace Candidate

/-- The name behind the names of the modules around it. -/
def fullName (c : Candidate) : String :=
  if c.modules = [] then c.name else "::".intercalate c.modules ++ "::" ++ c.name

/-- What the candidate's artifacts go by: the qualified name, and the number of type parameters
if there are any. -/
def identity (c : Candidate) : String :=
  if c.typeParams = [] then c.fullName
  else c.fullName ++ "`" ++ toString c.typeParams.length

/-- The list of type parameters as it is written, empty if there are none. -/
def generics (c : Candidate) : String :=
  if c.typeParams = [] then "" else "<" ++ ", ".intercalate c.typeParams ++ ">"

/-- The markers of a family, in their order. -/
def markersIn (c : Candidate) (family : Family) : List Marker :=
  c.markers.filter fun m => m.family == family

/-- What the markers of holders hold, in their order. -/
def holdings (c : Candidate) : List Holding := c.markers.filterMap Marker.holding?

/-- What the markers of value objects wrap, in their order. -/
def wrappings (c : Candidate) : List Wrapping := c.markers.filterMap Marker.wrapping?

end Candidate

end Stencil
