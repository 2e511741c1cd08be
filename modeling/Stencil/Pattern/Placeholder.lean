import Stencil.Key
import Stencil.Pattern.Reader

/-!
# The placeholders of a pattern

A placeholder is a name between braces: a key's start, then characters that a key may go on
with, not more of them than a bound allows, and a closing brace.  An opening brace that does not
start a placeholder is text like any other.

`Placeholder.scan` lists the placeholders of a pattern from left to right, each with its offset
in bytes and with its line and column.
-/

namespace Stencil

/-- The name that a text starts with, if a closing brace ends it and it has no more characters
than the bound. -/
def leadingName? (bound : Nat) : List Char → Option (List Char)
  | [] => none
  | c :: rest =>
    let name := c :: rest.takeWhile Key.isContinue
    if Key.isStart c && (rest.dropWhile Key.isContinue).head? == some '}' && name.length ≤ bound
    then some name else none

/-- The name of the placeholder that a text starts with. -/
def token? (bound : Nat) : List Char → Option (List Char)
  | [] => none
  | c :: rest => if c = '{' then leadingName? bound rest else none

/-- The number of characters that the placeholder of a name takes, its braces included. -/
def tokenLength (name : List Char) : Nat := name.length + 2

/-- A placeholder and where it stands. -/
structure Placeholder where
  name : String
  /-- The number of bytes before its opening brace. -/
  offset : Nat
  /-- The stretch it takes, its braces included. -/
  extent : Extent
deriving DecidableEq

namespace Placeholder

/-- The placeholder of a name at the place of a reader. -/
def ofReader (r : Reader) (name : List Char) : Placeholder where
  name := String.ofList name
  offset := r.offset
  extent := r.extent (Text.byteLength name + 2)

/-- The placeholders that are left to read. -/
def scanFrom (bound : Nat) (r : Reader) : List Placeholder :=
  if r.rest = [] then []
  else
    match token? bound r.rest with
    | some name => ofReader r name :: scanFrom bound (r.skip (tokenLength name))
    | none => scanFrom bound (r.skip 1)
termination_by r.rest.length
decreasing_by
  all_goals
    have := List.length_pos_iff.2 (by assumption)
    simp only [Reader.skip, List.length_drop, tokenLength]
    omega

theorem scanFrom_nil {bound : Nat} {r : Reader} (h : r.rest = []) : scanFrom bound r = [] := by
  rw [scanFrom, if_pos h]

theorem scanFrom_token {bound : Nat} {r : Reader} {name : List Char}
    (h : token? bound r.rest = some name) :
    scanFrom bound r = ofReader r name :: scanFrom bound (r.skip (tokenLength name)) := by
  have hrest : r.rest ≠ [] := fun e => by simp [e, token?] at h
  rw [scanFrom, if_neg hrest, h]

theorem scanFrom_text {bound : Nat} {r : Reader} (hrest : r.rest ≠ [])
    (h : token? bound r.rest = none) : scanFrom bound r = scanFrom bound (r.skip 1) := by
  rw [scanFrom, if_neg hrest, h]

/-- The placeholders of a pattern whose names are within a bound, from left to right. -/
def scan (bound : Nat) (pattern : String) : List Placeholder :=
  scanFrom bound (Reader.ofString pattern)

/-- A placeholder as it is written, and where it stands. -/
def display (p : Placeholder) : String := s!"\x7b{p.name}\x7d at {p.extent.position.display}"

end Placeholder

end Stencil
