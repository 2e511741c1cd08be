import Stencil.Key

/-!
# The keys of the built-in patterns
-/

namespace Stencil.Key

/-- The name of the type. -/
def name : Key := ⟨"Name", by decide⟩

/-- The type parameters in angle brackets. -/
def generics : Key := ⟨"Generics", by decide⟩

/-- The words that declare the visibility. -/
def visibility : Key := ⟨"Visibility", by decide⟩

/-- The version of the built-in patterns; no pattern has a hole for it. -/
def patternVersion : Key := ⟨"PatternVersion", by decide⟩

/-- The line that says where an artifact comes from. -/
def header : Key := ⟨"Header", by decide⟩

/-- The attribute lines above a type. -/
def attributes : Key := ⟨"Attributes", by decide⟩

/-- The type of a good result. -/
def ok : Key := ⟨"Ok", by decide⟩

/-- The type of an error. -/
def err : Key := ⟨"Err", by decide⟩

/-- The type of an optional value. -/
def value : Key := ⟨"Value", by decide⟩

/-- The number of a case. -/
def index : Key := ⟨"Index", by decide⟩

/-- The type of a case. -/
def type : Key := ⟨"Type", by decide⟩

/-- How many cases there are. -/
def count : Key := ⟨"Count", by decide⟩

/-- The cases themselves. -/
def variants : Key := ⟨"Variants", by decide⟩

/-- The lines that give the number of each case. -/
def indexArms : Key := ⟨"IndexArms", by decide⟩

/-- The conversions into each case. -/
def fromImpls : Key := ⟨"FromImpls", by decide⟩

/-- The wrapped type. -/
def inner : Key := ⟨"Inner", by decide⟩

/-- What all value objects have in common. -/
def commonImpls : Key := ⟨"CommonImpls", by decide⟩

/-- The name of a sequence. -/
def sequenceName : Key := ⟨"SequenceName", by decide⟩

/-- The schema of a sequence. -/
def schema : Key := ⟨"Schema", by decide⟩

/-- The first number of a sequence. -/
def start : Key := ⟨"Start", by decide⟩

/-- The step of a sequence. -/
def increment : Key := ⟨"Increment", by decide⟩

/-- The rows of all sequences. -/
def entries : Key := ⟨"Entries", by decide⟩

end Stencil.Key
