/-!
# Hexadecimal numbers

Lower-case digits in base sixteen, either as few as the number needs or a fixed sixteen of them
for a word of 64 bits.
-/

namespace Stencil.Text

/-- The digits of a number in base sixteen, without leading zeros. -/
def hex (n : Nat) : List Char := Nat.toDigits 16 n

/-- A word of 64 bits as sixteen digits. -/
def hexWord (word : UInt64) : String := String.ofList ((hex word.toNat).leftpad 16 '0')

end Stencil.Text
