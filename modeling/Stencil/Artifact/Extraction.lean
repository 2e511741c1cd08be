import Stencil.Artifact.Descriptor

/-!
# Extractions

A generator looks at a candidate and either describes an artifact or says why it makes none.
-/

namespace Stencil

/-- The fewest cases of a multi-result holder. -/
def fewestCases : Nat := 2

/-- The most cases of a multi-result holder. -/
def mostCases : Nat := 8

/-- What is wrong with the facts of a candidate. -/
inductive Defect where
  /-- The candidate's name cannot be the name of a type. -/
  | typeName (name : String)
  /-- A multi-result holder has too few or too many cases. -/
  | caseCount (count : Nat)
  /-- Two cases of a multi-result holder have the same type. -/
  | repeatedCase (type : String)
  /-- A value object wraps nothing. -/
  | blankInner
  /-- A sequence collector has nothing to collect. -/
  | noSequences
  /-- A sequence's name is not a word. -/
  | sequenceName (name : String)
  /-- A sequence stays where it is. -/
  | zeroIncrement (name : String)
  /-- Two sequences of one schema have the same name. -/
  | repeatedSequence (name : String)
  /-- A value cannot be bound. -/
  | unbindable (error : BindingError)
  /-- A defect in a generator's own words. -/
  | stated (detail : String)
deriving DecidableEq

/-- The wording of a defect. -/
def Defect.message : Defect → String
  | typeName name => s!"'{name}' is not a type name"
  | caseCount count =>
    s!"multi-result holder needs {fewestCases} to {mostCases} cases, got {count}"
  | repeatedCase type => s!"case type '{type}' appears more than once"
  | blankInner => "value object has no inner type"
  | noSequences => "no sequences declared"
  | sequenceName name => s!"'{name}' is not a sequence name"
  | zeroIncrement name => s!"sequence '{name}' has a zero increment"
  | repeatedSequence name => s!"sequence '{name}' is declared more than once"
  | unbindable error => error.message
  | stated detail => detail

/-- Why a generator makes nothing of a candidate. -/
inductive Skip where
  /-- The candidate has no marker for the generator. -/
  | noMarker
  /-- The candidate has several markers for the generator. -/
  | ambiguousMarkers (count : Nat)
  /-- The generator is not meant for such candidates. -/
  | notApplicable
  /-- The candidate's facts do not fit together. -/
  | invalidFacts (defect : Defect)
deriving DecidableEq

namespace Skip

/-- The wording of a reason. -/
def message : Skip → String
  | noMarker => "no matching marker"
  | ambiguousMarkers count => s!"{count} markers found, expected exactly one"
  | notApplicable => "rule does not apply"
  | invalidFacts defect => s!"invalid facts: {defect.message}"

/-- The inspection text of a reason. -/
def inspect : Skip → String
  | noMarker => "NoMarker"
  | ambiguousMarkers count => Text.record "AmbiguousMarkers" [("count", toString count)]
  | notApplicable => "NotApplicable"
  | invalidFacts defect => "InvalidFacts(" ++ Text.quote defect.message ++ ")"

end Skip

/-- A descriptor, or the reason why there is none. -/
abbrev Extraction := Except Skip Descriptor

namespace Extraction

/-- Whether there is a descriptor. -/
def isPresent : Extraction → Bool
  | .ok _ => true
  | .error _ => false

/-- Whether two extractions have equal descriptors or equal reasons. -/
def same [TextHash] : Extraction → Extraction → Bool
  | .ok a, .ok b => a == b
  | .error r, .error s => r == s
  | _, _ => false

/-- The descriptors among some extractions, in their order. -/
def present (extractions : List Extraction) : List Descriptor :=
  extractions.filterMap Except.toOption

end Extraction

end Stencil
