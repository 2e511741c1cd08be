import Mathlib.Tactic.Lemma
import Stencil.Text.Bytes

/-!
# The bytes of a text

Offsets count the bytes of the UTF-8 encoding.  The bytes of a text are those of its characters
one after the other, and `byteLength` is their number.
-/

namespace Stencil.Text

/-- The UTF-8 encoding of a text. -/
def bytes (text : String) : List UInt8 := text.toUTF8.data.toList

/-- The UTF-8 encoding of characters. -/
def encode (cs : List Char) : List UInt8 := cs.flatMap String.utf8EncodeChar

lemma bytes_ofList (cs : List Char) : bytes (String.ofList cs) = encode cs := by
  simp [bytes, encode, List.utf8Encode]

lemma bytes_eq_encode (text : String) : bytes text = encode text.toList := by
  rw [← bytes_ofList, String.ofList_toList]

@[simp] lemma encode_nil : encode [] = [] := rfl

@[simp] lemma encode_cons (c : Char) (cs : List Char) :
    encode (c :: cs) = String.utf8EncodeChar c ++ encode cs := List.flatMap_cons

@[simp] lemma encode_append (cs ds : List Char) : encode (cs ++ ds) = encode cs ++ encode ds :=
  List.flatMap_append

@[simp] lemma length_encode (cs : List Char) : (encode cs).length = byteLength cs := by
  induction cs with
  | nil => rfl
  | cons c cs ih => rw [encode_cons, List.length_append, String.length_utf8EncodeChar, ih,
      byteLength_cons]

end Stencil.Text
