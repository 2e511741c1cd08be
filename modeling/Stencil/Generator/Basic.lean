import Stencil.Artifact.Extraction
import Stencil.Candidate
import Stencil.Generator.Keys
import Stencil.Generator.Patterns
import Stencil.Options
import Stencil.Text.Blank

/-!
# Generators

A generator turns a candidate into the descriptor of an artifact, or skips it; and it gives the
pattern and the file name of the artifacts that it describes.  Both depend on what a descriptor
says and not on the order of its bindings, so that equal descriptors stand for one artifact.

This module has what the built-in generators share: the checks that come before anything else,
the bindings that all patterns use, and the attribute lines above a type.
-/

namespace Stencil

/-- A way to make artifacts from candidates. -/
structure Generator where
  /-- The name that the generator's artifacts are kept under. -/
  name : String
  /-- The descriptor of the artifact for a candidate, or why there is none. -/
  extract : Candidate → Options → Extraction
  /-- The pattern of a described artifact. -/
  pattern : Descriptor → String
  /-- The name of the file that a described artifact goes to. -/
  fileName : Descriptor → String
  pattern_congr : ∀ {a b : Descriptor}, a.Agrees b → pattern a = pattern b
  fileName_congr : ∀ {a b : Descriptor}, a.Agrees b → fileName a = fileName b

namespace Generator

/-! ## File names -/

/-- An identity as part of a file name: a dot for two colons, a low line for a backquote. -/
def fileStem : List Char → List Char
  | [] => []
  | ':' :: ':' :: rest => '.' :: fileStem rest
  | c :: rest => (if c = '\x60' then '_' else c) :: fileStem rest

/-- The name of the file of an artifact, from its identity and a suffix for its generator. -/
def fileOf (identity suffix : String) : String :=
  String.ofList (fileStem identity.toList) ++ "." ++ suffix ++ ".g.rs"

/-! ## Checks -/

/-- Whether a character may stand in the name of a type or of a sequence. -/
def isNameChar (c : Char) : Bool := Text.isAlphanumeric c || c == '_'

/-- Whether a text can be the name of a type: letters, numbers and low lines, without a number
in front. -/
def isTypeName (name : String) : Bool :=
  match name.toList with
  | [] => false
  | c :: rest => (Text.isAlphabetic c || c == '_') && (c :: rest).all isNameChar

/-- Refuses a candidate whose name cannot be the name of a type. -/
def requireTypeName (c : Candidate) : Except Skip Unit :=
  if isTypeName c.name then .ok () else .error (.invalidFacts (.typeName c.name))

/-- The only element of a list of what markers say. -/
def onlyOne {α : Type} : List α → Except Skip α
  | [] => .error .noMarker
  | [x] => .ok x
  | xs => .error (.ambiguousMarkers xs.length)

/-! ## Bindings and texts that patterns share -/

/-- The line that says what made an artifact, and an empty line. -/
def headerText (c : Candidate) (o : Options) : String :=
  "// @generated by " ++ o.toolchain ++ " from `" ++ c.fullName ++ "`. Do not edit.\n\n"

/-- What every pattern is filled with; without a header its key is bound to an absent value. -/
def baseBindings (c : Candidate) (o : Options) : Bindings :=
  Bindings.empty.putAll
    [(.name, some c.name), (.generics, some c.generics), (.visibility, some c.visibility.lead),
      (.patternVersion, some Patterns.version),
      (.header, if o.header then some (headerText c o) else none)]

/-- The attribute lines above a type that has a name, for formats it is serialized in; `mode`
says how a type that wraps another one is serialized. -/
def attributeText (name : String) (formats : Formats) (mode : Option String) : String :=
  let derived := "#[derive(Debug, Clone, PartialEq)]\n"
  if formats.any then
    derived ++ "#[derive(serde::Serialize, serde::Deserialize)]\n" ++
      (match mode with
        | some text => "#[serde(" ++ text ++ ")]\n"
        | none => "") ++
      (if formats.contains .xml then "#[serde(rename = \"" ++ name ++ "\")]\n" else "")
  else derived

end Generator

end Stencil
