import Stencil.Pattern.Filler
import Stencil.Text.Quoted
import Stencil.Text.Record

/-!
# Options

What all generators of a run share: the serialization formats to support, whether a header is
written, the tool named in it, and the style in which patterns are filled.
-/

namespace Stencil

/-- A set of serialization formats, one bit for each; bits without a meaning are kept. -/
structure Formats where
  bits : UInt8
deriving DecidableEq

namespace Formats

/-- No format. -/
def none : Formats := ⟨0⟩

/-- The format JSON. -/
def json : Formats := ⟨1⟩

/-- The format MessagePack. -/
def messagePack : Formats := ⟨2⟩

/-- The format XML. -/
def xml : Formats := ⟨4⟩

/-- The formats of both sets. -/
def union (a b : Formats) : Formats := ⟨a.bits ||| b.bits⟩

/-- Whether all bits of a second set are in the first one. -/
def contains (a b : Formats) : Bool := a.bits &&& b.bits == b.bits

/-- Whether any bit is set, with a meaning or without: then types can be serialized. -/
def any (a : Formats) : Bool := a.bits != 0

/-- The formats that have a name, by increasing bits. -/
def named : List (String × Formats) := [("JSON", json), ("MESSAGE_PACK", messagePack), ("XML", xml)]

/-- The bits without a meaning. -/
def unnamedBits (a : Formats) : UInt8 := a.bits &&& 0xf8

/-- The inspection text: the names of the formats, then the bits without a meaning. -/
def inspect (a : Formats) : String :=
  let names := (named.filter fun format => a.contains format.2).map Prod.fst
  let others :=
    if a.unnamedBits != 0 ∨ names = [] then
      ["0x" ++ String.ofList (Text.hex a.unnamedBits.toNat)]
    else []
  "SerializationSupport(" ++ " | ".intercalate (names ++ others) ++ ")"

end Formats

/-- The options of a run. -/
structure Options where
  serialization : Formats := .none
  /-- Whether each artifact starts with a line that says where it comes from. -/
  header : Bool := true
  /-- The name and version of the tool that the header names. -/
  toolchain : String := "holdgen 0.1.0"
  style : Style := .robust
deriving DecidableEq

namespace Options

/-- The filler that patterns are filled with. -/
def filler (o : Options) : Filler := Filler.ofStyle o.style

/-- The number that stands for a style in digests. -/
def styleCode : Style → UInt64
  | .simple => 1
  | .robust => 2

/-- The digest of all options. -/
def fingerprint [TextHash] (o : Options) : Digest :=
  (((Digest.ofIdentity 0 o.toolchain).mix ⟨o.serialization.bits.toUInt64⟩).mix
    ⟨if o.header then 1 else 0⟩).mix ⟨styleCode o.style⟩

/-- The inspection text of options. -/
def inspect (o : Options) : String :=
  Text.record "GeneratorOptions"
    [("serialization", o.serialization.inspect), ("header", Text.truth o.header),
      ("toolchain", Text.quote o.toolchain), ("style", o.style.display)]

end Options

end Stencil
