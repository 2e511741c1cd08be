import Stencil.Generator.Basic

/-!
# Generators made from data

Pipelines take any generators, not only the built-in ones.  A recipe is an example of a generator
from outside.  It describes a simple one: it skips the candidates that it lists by name, and makes
one artifact of every other candidate, whatever the markers and options.  The bindings of the
artifact are the candidate's name and the values that the recipe lists.
-/

namespace Stencil

/-- The description of a simple generator from outside: an example, which none of the built-in
generators is made from. -/
structure Recipe where
  name : String
  /-- The kind of all artifacts. -/
  kind : Kind
  /-- The pattern of all artifacts. -/
  pattern : String
  /-- The suffix of the names of all files. -/
  suffix : String
  /-- What is bound for every artifact; a later pair replaces an earlier one. -/
  values : List (String × Option String) := []
  /-- The names of candidates to skip, with the reasons; the first entry of a name counts. -/
  skips : List (String × Skip) := []

namespace Recipe

/-- The bindings of a candidate's artifact. -/
def bindings? (r : Recipe) (c : Candidate) : Except BindingError Bindings :=
  r.values.foldlM (fun b pair => b.insert? pair.1 pair.2)
    (Bindings.empty.put .name (some c.name))

/-- The descriptor of a candidate's artifact, or why it is skipped. -/
def extract (r : Recipe) (c : Candidate) : Extraction :=
  match r.skips.find? fun entry => entry.1 == c.name with
  | some entry => .error entry.2
  | none =>
    match r.bindings? c with
    | .ok b => .ok ⟨c.identity, r.kind, b⟩
    | .error e => .error (.invalidFacts (.unbindable e))

/-- The generator that a recipe describes. -/
def generator (r : Recipe) : Generator where
  name := r.name
  extract c _ := r.extract c
  pattern _ := r.pattern
  fileName d := Generator.fileOf d.identity r.suffix
  pattern_congr _ := rfl
  fileName_congr h := by rw [h.identity]

end Recipe

end Stencil
