import Stencil.Artifact.Extraction
import Stencil.Pattern.Placeholder

/-!
# What a pass reports

The outputs of a pass in the order of their keys, the warnings about holes that were left open,
and the numbers of what was done.
-/

namespace Stencil

/-- What an artifact is kept under: the name of its generator and its identity. -/
structure ArtifactKey where
  generator : String
  identity : String
deriving DecidableEq

/-- The order of keys: by generator, then by identity. -/
def ArtifactKey.le (a b : ArtifactKey) : Bool :=
  a.generator < b.generator || a.generator == b.generator && a.identity ≤ b.identity

/-- An artifact as it is kept between passes. -/
structure Artifact where
  /-- What the artifact was made from. -/
  descriptor : Descriptor
  fileName : String
  text : String
  /-- Whether the text was made in the last pass. -/
  fresh : Bool

/-- One generated file. -/
structure Output where
  key : ArtifactKey
  kind : Kind
  fileName : String
  text : String
  /-- Whether the text was made in this pass. -/
  fresh : Bool
deriving DecidableEq

/-- The output for a kept artifact. -/
def Output.ofArtifact (key : ArtifactKey) (a : Artifact) : Output where
  key := key
  kind := a.descriptor.kind
  fileName := a.fileName
  text := a.text
  fresh := a.fresh

/-- An artifact was made from a pattern with placeholders that nothing is bound to. -/
structure Warning where
  key : ArtifactKey
  missing : List Placeholder
deriving DecidableEq

namespace Warning

/-- The names of the open placeholders, in the order of the pattern. -/
def names (w : Warning) : List String := w.missing.map Placeholder.name

/-- The open placeholders and where they stand. -/
def locations (w : Warning) : String := ", ".intercalate (w.missing.map Placeholder.display)

end Warning

/-- The numbers of a pass. -/
structure Stats where
  candidates : Nat
  /-- How often a generator made nothing of a candidate. -/
  skipped : Nat
  /-- How many artifacts were made. -/
  generated : Nat
  /-- How many artifacts were kept from the pass before. -/
  reused : Nat
  /-- How many artifacts of the pass before are gone. -/
  removed : Nat
deriving DecidableEq

/-- What a pass gives. -/
structure Report where
  /-- The outputs in increasing order of their keys. -/
  outputs : List Output
  warnings : List Warning
  stats : Stats
deriving DecidableEq

namespace Report

/-- The outputs that were made in this pass. -/
def fresh (r : Report) : List Output := r.outputs.filter Output.fresh

/-- The output of a key. -/
def find? (r : Report) (key : ArtifactKey) : Option Output := r.outputs.find? fun o => o.key == key

end Report

/-- What cannot stand side by side. -/
inductive Conflict where
  /-- A generator described two artifacts of one identity in one pass. -/
  | repeatedArtifact (key : ArtifactKey)
  /-- Two generators have the same name. -/
  | repeatedGenerator (name : String)
deriving DecidableEq

/-- The wording of a conflict. -/
def Conflict.message : Conflict → String
  | repeatedArtifact ⟨generator, identity⟩ =>
    s!"generator '{generator}' produced '{identity}' more than once"
  | repeatedGenerator name => s!"a generator named '{name}' is already registered"

end Stencil
