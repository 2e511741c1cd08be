import Stencil.Proofs.Pattern.Splice

/-!
# Patterns in pieces

Which places of a pattern are filled does not depend on the bindings.  So a pattern can be cut into
pieces once, characters that are copied and holes with their names, and filling it is to write the
pieces one after the other.  The pieces of a given pattern are found by evaluation.

The main result is `Filler.toList_fill`: a filled pattern, piece by piece.
-/

namespace Stencil

/-- A text is read from the front: it is empty, or it starts with a character that starts no
placeholder, or with a placeholder. -/
@[elab_as_elim]
theorem pattern_induction (bound : Nat) {motive : List Char → Prop} (nil : motive [])
    (text : ∀ c cs, token? bound (c :: cs) = none → motive cs → motive (c :: cs))
    (token : ∀ name rest, Key.isWord name = true → name.length ≤ bound → motive rest →
      motive ('{' :: name ++ '}' :: rest)) (cs : List Char) : motive cs := by
  induction hlength : cs.length using Nat.strong_induction_on generalizing cs with
  | h n ih =>
    cases cs with
    | nil => exact nil
    | cons c cs =>
      cases htoken : token? bound (c :: cs) with
      | none => exact text c cs htoken (ih cs.length (by rw [← hlength]; simp) cs rfl)
      | some name =>
        obtain ⟨hword, hlen, rest, hsplit⟩ := token?_eq_some_iff.1 htoken
        rw [hsplit] at hlength ⊢
        exact token name rest hword hlen (ih rest.length (by rw [← hlength]; simp; omega) rest rfl)

/-- A piece of a pattern: a character of its text, or a hole with a name. -/
inductive Piece where
  | char (c : Char)
  | hole (name : List Char)
deriving DecidableEq

namespace Piece

/-- The pieces of a text in which each character stands for itself. -/
def literal (text : String) : List Piece := text.toList.map char

/-- What is written for a piece. -/
def fill (b : Bindings) : Piece → List Char
  | char c => [c]
  | hole name =>
    ((b.replacement? (String.ofList name)).getD ("\x7b" ++ String.ofList name ++ "\x7d")).toList

/-- The pieces of a text behind some characters that belong to a hole already. -/
def ofChars (bound : Nat) : Nat → List Char → List Piece
  | _, [] => []
  | count + 1, _ :: rest => ofChars bound count rest
  | 0, c :: rest =>
    match token? bound (c :: rest) with
    | some name => hole name :: ofChars bound (name.length + 1) rest
    | none => char c :: ofChars bound 0 rest

lemma ofChars_eq_drop (bound count : Nat) (cs : List Char) :
    ofChars bound count cs = ofChars bound 0 (cs.drop count) := by
  induction cs generalizing count with
  | nil => cases count <;> rfl
  | cons c cs ih =>
    cases count with
    | zero => rfl
    | succ count =>
      rw [ofChars, List.drop_succ_cons]
      exact ih count

lemma ofChars_text {bound : Nat} {c : Char} {cs : List Char} (h : token? bound (c :: cs) = none) :
    ofChars bound 0 (c :: cs) = char c :: ofChars bound 0 cs := by
  rw [ofChars, h]

/-- Behind the name of a hole and its closing brace the text goes on. -/
lemma ofChars_token {bound : Nat} {name rest : List Char} (hword : Key.isWord name = true)
    (hlen : name.length ≤ bound) :
    ofChars bound 0 ('{' :: name ++ '}' :: rest) = hole name :: ofChars bound 0 rest := by
  have htoken := token?_name hword hlen rest
  rw [List.cons_append] at htoken ⊢
  rw [ofChars, htoken]
  show hole name :: ofChars bound (name.length + 1) _ = _
  rw [ofChars_eq_drop]
  simp

/-- The pieces of a pattern for names within a bound. -/
def ofPattern (bound : Nat) (pattern : String) : List Piece := ofChars bound 0 pattern.toList

@[simp] lemma flatMap_fill_literal (b : Bindings) (text : String) :
    (literal text).flatMap (fill b) = text.toList := by
  rw [literal, List.flatMap_map]
  exact List.flatMap_singleton' text.toList

lemma fill_hole {b : Bindings} {key : Key} {value : Option String}
    (h : b.get? key.text = some value) : fill b (hole key.chars) = (value.getD "").toList := by
  rw [fill, Key.ofList_chars, Bindings.replacement?, h]
  rfl

end Piece

namespace Filler

lemma fillWith_eq_flatMap (f : Filler) (b : Bindings) (cs : List Char) :
    fillWith (f.hit? b) cs = (Piece.ofChars f.bound 0 cs).flatMap (Piece.fill b) := by
  induction cs using pattern_induction f.bound with
  | nil =>
    rw [fillWith_nil]
    rfl
  | text c cs htoken ih =>
    rw [fillWith_text_of_token?_eq_none f b htoken, ih, Piece.ofChars_text htoken,
      List.flatMap_cons]
    rfl
  | token name rest hword hlen ih =>
    rw [fillWith_token f b hword hlen, ih, Piece.ofChars_token hword hlen, List.flatMap_cons]
    rfl

/-- A filled pattern is made of what is written for its pieces. -/
theorem toList_fill (f : Filler) (pattern : String) (b : Bindings) :
    (f.fill pattern b).toList = (Piece.ofPattern f.bound pattern).flatMap (Piece.fill b) := by
  rw [fill, String.toList_ofList, fillWith_eq_flatMap, Piece.ofPattern]

end Filler

end Stencil
