import Stencil.Text.Ranges

/-!
# White space

The property White_Space of the Unicode standard, and texts made of nothing else.
-/

namespace Stencil.Text

/-- The code points with the property White_Space. -/
def blankRanges : List (Nat × Nat) :=
  [(0x9, 0xd), (0x20, 0x20), (0x85, 0x85), (0xa0, 0xa0), (0x1680, 0x1680), (0x2000, 0x200a),
    (0x2028, 0x2029), (0x202f, 0x202f), (0x205f, 0x205f), (0x3000, 0x3000)]

theorem sortedRanges_blankRanges : sortedRanges blankRanges = true := by decide +kernel

/-- Whether a character is white space. -/
def isBlank (c : Char) : Bool := inRanges c.toNat blankRanges

/-- Whether a text holds white space only; the empty text does. -/
def allBlank (text : String) : Bool := text.toList.all isBlank

end Stencil.Text
