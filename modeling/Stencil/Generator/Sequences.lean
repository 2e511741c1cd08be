import Stencil.Generator.Basic

/-!
# The generator of sequence collectors

A sequence collector gets a table of the number sequences that its candidate declares, one row
for each in the order of their declaration.
-/

namespace Stencil.Sequences

/-- Whether a text can be the name of a sequence. -/
def isName (name : String) : Bool := name != "" && name.toList.all Generator.isNameChar

/-- What keeps a sequence from being collected behind others, given by schema and name. -/
def defect? (seen : List (Option String × String)) (s : NumberSequence) : Option Defect :=
  if !isName s.name then some (.sequenceName s.name)
  else if s.increment = 0 then some (.zeroIncrement s.name)
  else if (s.schema, s.name) ∈ seen then some (.repeatedSequence s.name)
  else none

/-- The first defect of some sequences behind others. -/
def firstDefect? (seen : List (Option String × String)) : List NumberSequence → Option Defect
  | [] => none
  | s :: rest => (defect? seen s).or (firstDefect? ((s.schema, s.name) :: seen) rest)

/-- Refuses to collect nothing, then sequences with a defect. -/
def requireSound (sequences : List NumberSequence) : Except Skip Unit :=
  if sequences = [] then .error (.invalidFacts .noSequences)
  else
    match firstDefect? [] sequences with
    | some defect => .error (.invalidFacts defect)
    | none => .ok ()

/-- The schema of a row. -/
def schemaText : Option String → String
  | some schema => "Some(" ++ Text.quote schema ++ ")"
  | none => "None"

/-- What a row is filled with. -/
def rowBindings (c : Candidate) (s : NumberSequence) : Bindings :=
  Bindings.empty.putAll
    [(.name, some c.name), (.sequenceName, some s.name), (.schema, some (schemaText s.schema)),
      (.start, some (toString s.start)), (.increment, some (toString s.increment))]

/-- The rows of all sequences. -/
def rows (f : Filler) (c : Candidate) : String :=
  String.join (c.sequences.map fun s => f.fill Patterns.sequenceEntry (rowBindings c s))

/-- The descriptor of the collector that a candidate's marker asks for. -/
def extract (c : Candidate) (o : Options) : Extraction := do
  Generator.requireTypeName c
  let _ ← Generator.onlyOne (c.markersIn .sequence)
  requireSound c.sequences
  return ⟨c.identity, .sequenceCollector,
    (Generator.baseBindings c o).put .entries (some (rows o.filler c))⟩

/-- The generator of sequence collectors. -/
def generator : Generator where
  name := "sequences"
  extract := extract
  pattern _ := Patterns.sequenceCollector
  fileName d := Generator.fileOf d.identity "sequences"
  pattern_congr _ := rfl
  fileName_congr h := by rw [h.identity]

end Stencil.Sequences
