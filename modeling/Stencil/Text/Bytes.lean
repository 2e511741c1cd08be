/-!
# Byte lengths

Offsets and columns count the bytes of the UTF-8 encoding of a text.
-/

namespace Stencil.Text

/-- The number of bytes that characters take. -/
def byteLength (cs : List Char) : Nat := cs.foldr (fun c length => c.utf8Size + length) 0

@[simp] theorem byteLength_nil : byteLength [] = 0 := rfl

@[simp] theorem byteLength_cons (c : Char) (cs : List Char) :
    byteLength (c :: cs) = c.utf8Size + byteLength cs := rfl

@[simp] theorem byteLength_append (cs ds : List Char) :
    byteLength (cs ++ ds) = byteLength cs + byteLength ds := by
  induction cs with
  | nil => rw [List.nil_append, byteLength_nil, Nat.zero_add]
  | cons c cs ih => rw [List.cons_append, byteLength_cons, byteLength_cons, ih, Nat.add_assoc]

/-- How many characters at the front of a text fit wholly into a number of bytes. -/
def charsWithin (bytes : Nat) : List Char → Nat
  | [] => 0
  | c :: rest => if c.utf8Size ≤ bytes then charsWithin (bytes - c.utf8Size) rest + 1 else 0

end Stencil.Text
