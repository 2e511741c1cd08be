import Stencil.Text.Numeric

/-!
# Keys

A key names a hole of a pattern.  It starts with a letter, goes on with letters, numbers, blanks
or one of `.`, `-`, `_`, `/`, and is at most fifty characters long.  In particular it holds no
brace and no line end, which is what lets a pattern mark a hole by a key between braces.
-/

namespace Stencil

namespace Key

/-- The greatest number of characters of a key. -/
def maxLength : Nat := 50

/-- Whether a key may start with a character. -/
def isStart (c : Char) : Bool := Text.isAlphabetic c

/-- Whether a key may go on with a character. -/
def isContinue (c : Char) : Bool := Text.isAlphanumeric c || ['.', '-', '_', ' ', '/'].contains c

/-- Whether a text reads as a name: a start, then characters to go on with. -/
def isWord : List Char → Bool
  | [] => false
  | c :: rest => isStart c && rest.all isContinue

/-- Whether a text is a key. -/
def isValid (text : String) : Bool := isWord text.toList && text.length ≤ maxLength

end Key

/-- A text that may name a hole. -/
structure Key where
  text : String
  valid : Key.isValid text = true
deriving DecidableEq

namespace Key

/-- A text as a key, if it is one. -/
def ofString? (text : String) : Option Key :=
  if h : isValid text = true then some ⟨text, h⟩ else none

/-- The characters of a key. -/
def chars (key : Key) : List Char := key.text.toList

theorem ofString?_eq_some_iff {text : String} {key : Key} :
    ofString? text = some key ↔ text = key.text := by
  unfold ofString?
  constructor
  · intro h
    split at h
    · cases h
      rfl
    · cases h
  · rintro rfl
    rw [dif_pos key.valid]

/-- The text of a key is that key. -/
@[simp] theorem ofString?_text (key : Key) : ofString? key.text = some key :=
  ofString?_eq_some_iff.2 rfl

end Key

end Stencil
