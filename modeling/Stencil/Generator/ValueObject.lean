import Stencil.Generator.Basic

/-!
# The generator of value objects

A value object wraps one value of another type, with or without validating it first.
-/

namespace Stencil.ValueObject

/-- How a value object is serialized: as the value itself, or through the conversion that
validates it. -/
def serializationMode (w : Wrapping) : String :=
  if w.validated then "try_from = \"" ++ w.inner ++ "\"" else "transparent"

/-- The kind of a value object. -/
def kind (w : Wrapping) : Kind := if w.validated then .validatableValueObject else .valueObject

/-- What the parts of a value object are filled with. -/
def partBindings (c : Candidate) (o : Options) (w : Wrapping) : Bindings :=
  (Generator.baseBindings c o).putAll
    [(.inner, some w.inner),
      (.attributes,
        some (Generator.attributeText c.name o.serialization (some (serializationMode w))))]

/-- The parts that all value objects have, and the one for displaying it if it is wanted. -/
def commonParts (c : Candidate) (o : Options) (w : Wrapping) : String :=
  let b := partBindings c o w
  o.filler.fill Patterns.valueObjectCommon b ++
    if c.display then o.filler.fill Patterns.valueObjectDisplay b else ""

/-- Refuses to wrap a type whose name is nothing but white space. -/
def requireInner (w : Wrapping) : Except Skip Unit :=
  if Text.allBlank w.inner then .error (.invalidFacts .blankInner) else .ok ()

/-- The descriptor of the value object that a candidate's marker asks for. -/
def extract (c : Candidate) (o : Options) : Extraction := do
  Generator.requireTypeName c
  let w ← Generator.onlyOne c.wrappings
  requireInner w
  return ⟨c.identity, kind w, (partBindings c o w).put .commonImpls (some (commonParts c o w))⟩

/-- The pattern of a value object. -/
def pattern (d : Descriptor) : String :=
  match d.kind with
  | .validatableValueObject => Patterns.validatableValueObject
  | _ => Patterns.valueObject

/-- The generator of value objects. -/
def generator : Generator where
  name := "value-object"
  extract := extract
  pattern := pattern
  fileName d := Generator.fileOf d.identity "value"
  pattern_congr h := by rw [pattern, pattern, h.kind]
  fileName_congr h := by rw [h.identity]

end Stencil.ValueObject
