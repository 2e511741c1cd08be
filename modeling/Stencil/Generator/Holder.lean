import Stencil.Generator.Basic
import Stencil.Repeated

/-!
# The generator of holders

A holder is an enumeration made from a marker: a result with its error, an optional value, or a
choice between two to eight numbered cases.  The parts of a holder with cases that repeat for
each case are filled case by case, and their texts are bound in one piece.
-/

namespace Stencil.Holder

/-- What the parts for one case are filled with. -/
def caseBindings (c : Candidate) (type : String) (index : Nat) : Bindings :=
  Bindings.empty.putAll
    [(.index, some (toString index)), (.type, some type), (.name, some c.name),
      (.generics, some c.generics)]

/-- A part of the text, once for each case in order. -/
def fillCases (f : Filler) (pattern : String) (c : Candidate) (types : List String) : String :=
  String.join (types.mapIdx fun index type => f.fill pattern (caseBindings c type index))

/-- Refuses too few or too many cases, then cases of the same type. -/
def requireCases (types : List String) : Except Skip Unit :=
  if types.length < fewestCases ∨ mostCases < types.length then
    .error (.invalidFacts (.caseCount types.length))
  else
    match firstRepeated? [] types with
    | some type => .error (.invalidFacts (.repeatedCase type))
    | none => .ok ()

/-- What a holder of cases binds beside the rest. -/
def casesPairs (f : Filler) (c : Candidate) (types : List String) : List (Key × Option String) :=
  [(.count, some (toString types.length)),
    (.variants, some (fillCases f Patterns.caseVariant c types)),
    (.indexArms, some (fillCases f Patterns.caseIndexArm c types)),
    (.fromImpls, some (fillCases f Patterns.caseConversion c types))]

/-- What every holder binds. -/
def commonBindings (c : Candidate) (o : Options) : Bindings :=
  (Generator.baseBindings c o).put .attributes
    (some (Generator.attributeText c.name o.serialization none))

/-- The kind of a holder, and what it binds beside the rest. -/
def describe (c : Candidate) (o : Options) :
    Holding → Except Skip (Kind × List (Key × Option String))
  | .result ok err => .ok (.resultHolder, [(.ok, some ok), (.err, some err)])
  | .option value => .ok (.optionHolder, [(.value, some value)])
  | .cases types => do
    requireCases types
    return (.multiResultHolder, casesPairs o.filler c types)

/-- The descriptor of the holder that a candidate's marker asks for. -/
def extract (c : Candidate) (o : Options) : Extraction := do
  Generator.requireTypeName c
  let holding ← Generator.onlyOne c.holdings
  let (kind, pairs) ← describe c o holding
  return ⟨c.identity, kind, (commonBindings c o).putAll pairs⟩

/-- The pattern of a holder. -/
def pattern (d : Descriptor) : String :=
  match d.kind with
  | .optionHolder => Patterns.optionHolder
  | .multiResultHolder => Patterns.multiResultHolder
  | _ => Patterns.resultHolder

/-- The generator of holders. -/
def generator : Generator where
  name := "holder"
  extract := extract
  pattern := pattern
  fileName d := Generator.fileOf d.identity "holder"
  pattern_congr h := by rw [pattern, pattern, h.kind]
  fileName_congr h := by rw [h.identity]

end Stencil.Holder
