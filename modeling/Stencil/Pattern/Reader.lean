import Stencil.Pattern.Position
import Stencil.Text.Bytes

/-!
# Reading a text with positions

A reader stands somewhere in a text.  It knows what is left to read, how many bytes lie behind
it, and its line and column.  All its movements are made of one, `skip`, which passes over a
number of characters.
-/

namespace Stencil

/-- A place in a text. -/
structure Reader where
  /-- What is left to read. -/
  rest : List Char
  /-- How many bytes have been read. -/
  offset : Nat
  position : Position
deriving DecidableEq

namespace Reader

/-- The reader at the start of a text. -/
def ofString (text : String) : Reader := ⟨text.toList, 0, Position.start⟩

/-- Whether everything has been read. -/
def atEnd (r : Reader) : Bool := r.rest.isEmpty

/-- The next character. -/
def head? (r : Reader) : Option Char := r.rest.head?

/-- Passes over a number of characters, or over all that are left if they are fewer. -/
def skip (r : Reader) (count : Nat) : Reader where
  rest := r.rest.drop count
  offset := r.offset + Text.byteLength (r.rest.take count)
  position := r.position.advance (r.rest.take count)

@[simp] theorem skip_zero (r : Reader) : r.skip 0 = r := by
  simp [skip]

/-- Skips add up. -/
theorem skip_skip (r : Reader) (m n : Nat) : (r.skip m).skip n = r.skip (m + n) := by
  simp only [skip, List.drop_drop, List.take_add, Text.byteLength_append, Position.advance_append,
    Nat.add_assoc]

/-- Passes over as many characters as fit into a number of bytes. -/
def skipBytes (r : Reader) (bytes : Nat) : Reader := r.skip (Text.charsWithin bytes r.rest)

/-- Passes over the next character if it is the given one; says whether it was. -/
def accept (r : Reader) (c : Char) : Bool × Reader :=
  if r.head? = some c then (true, r.skip 1) else (false, r)

/-- Passes over everything up to the next occurrence of a character, or up to the end; gives the
text passed over. -/
def takeUntil (r : Reader) (c : Char) : List Char × Reader :=
  let passed := r.rest.takeWhile (· != c)
  (passed, r.skip passed.length)

/-- The stretch of a number of bytes that starts here. -/
def extent (r : Reader) (bytes : Nat) : Extent := ⟨r.position, UInt32.ofNat bytes⟩

end Reader

end Stencil
