import Stencil.Text.Hex

/-!
# Digests

A digest is a word of 64 bits that stands for the content of an identity, of an entry of a
table, or of a pattern.  Each of the three is marked with a constant of its own before its parts
are folded together, so that equal bytes in different roles give different digests.

The hash of a text is a parameter (`TextHash`): nothing that is said about digests depends on
which function it is.  Digests are folded in two ways:

* `mix` multiplies by an odd constant and adds, so the order of the two operands counts;
* `combine` adds up a whole list, so the order of the list does not count, but its length does.

All arithmetic is modulo `2 ^ 64`.
-/

namespace Stencil

/-- A hash of texts, as a word of 64 bits. -/
class TextHash where
  /-- The hash of a text. -/
  hash : String → UInt64

/-- A word of 64 bits that stands for some content. -/
structure Digest where
  bits : UInt64
deriving DecidableEq

namespace Digest

/-- The factor between the two parts of an ordered fold. -/
def separator : UInt64 := 0x4bc94d6bd06053ad

/-- Marks an identity. -/
def identityMark : UInt64 := 0x2fac10b63a6cc57c

/-- Marks the key of an entry. -/
def keyMark : UInt64 := 0x5ea77ffbcdf5f302

/-- Marks the value of an entry. -/
def valueMark : UInt64 := 0x7d3c8b4a92e15f6d

/-- Stands for a value that is explicitly absent. -/
def absentMark : UInt64 := 0x3e9f5d2a8c7b1403

/-- Marks a set of entries. -/
def entriesMark : UInt64 := 0x9a7f3d5e2b8c4601

/-- Marks the text of a pattern. -/
def patternMark : UInt64 := 0x1a095090689d4647

/-- The digest that stands for nothing. -/
def empty : Digest := ⟨0⟩

/-- Whether a digest is the one that stands for nothing. -/
def isEmpty (d : Digest) : Bool := d.bits == 0

/-- Folds a second digest into a first one; their order counts. -/
def mix (a b : Digest) : Digest := ⟨a.bits * separator + b.bits⟩

/-- The sum of the words of some digests. -/
def total (ds : List Digest) : UInt64 := ds.foldr (fun d sum => d.bits + sum) 0

/-- Folds digests together regardless of their order; their number counts. -/
def combine (ds : List Digest) : Digest :=
  ⟨(entriesMark ^^^ UInt64.ofNat ds.length) * separator + total ds⟩

section Content

variable [TextHash]

/-- The digest of an identity, together with the tag of the kind of artifact it names. -/
def ofIdentity (tag : UInt64) (identity : String) : Digest :=
  ⟨(identityMark ^^^ TextHash.hash identity) * separator + tag⟩

/-- The part of an entry's digest that its value gives; an absent value has its own. -/
def valueBits : Option String → UInt64
  | some value => valueMark ^^^ TextHash.hash value
  | none => absentMark

/-- The digest of an entry; key and value play different parts. -/
def ofEntry (key : String) (value : Option String) : Digest :=
  ⟨(keyMark ^^^ TextHash.hash key) * separator + valueBits value⟩

/-- The digest of the text of a pattern. -/
def ofPattern (pattern : String) : Digest := ⟨patternMark ^^^ TextHash.hash pattern⟩

end Content

/-- The word of a digest as sixteen hexadecimal digits. -/
def toHex (d : Digest) : String := Text.hexWord d.bits

/-- The inspection text of a digest. -/
def inspect (d : Digest) : String := "ArtifactHash(0x" ++ d.toHex ++ ")"

end Digest

end Stencil
