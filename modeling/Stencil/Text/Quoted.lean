import Stencil.Text.Hex
import Stencil.Text.Unprintable

/-!
# Quoted text

A text between double quotes, as a literal of the generated code and as the inspection texts
show it.  A quote and a backslash inside the text follow a backslash; the null character, the
tabulator and the two line ends have a letter of their own; every other character without a
shape is spelled by its code point in braces; all else stands for itself, the apostrophe too.
-/

namespace Stencil.Text

/-- How one character is written inside a quoted text. -/
def escape (c : Char) : List Char :=
  if c = '"' then ['\\', '"']
  else if c = '\\' then ['\\', '\\']
  else if c = '\x00' then ['\\', '0']
  else if c = '\t' then ['\\', 't']
  else if c = '\n' then ['\\', 'n']
  else if c = '\r' then ['\\', 'r']
  else if isUnprintable c then ['\\', 'u', '\x7b'] ++ hex c.toNat ++ ['\x7d']
  else [c]

/-- A text between double quotes. -/
def quote (text : String) : String :=
  String.ofList ('"' :: text.toList.flatMap escape ++ ['"'])

end Stencil.Text
