import Mathlib.Data.List.DropRight
import Stencil.Proofs.Text.Encoding

/-!
# Characters among bytes

The encoding of a character tells where it starts and where it ends: its first byte can only be a
first byte, and no encoding is the start of another one.  So bytes that are the encoding of some
characters are these characters wherever they are found in a text.

The main results are

* `Text.isBoundary_iff`: the offsets between two characters of a text;
* `Text.encode_prefix_drop_iff`: where the encoding of some characters is found in a text.
-/

namespace Stencil.Text

/-- An offset in bytes lies between two characters of a text, or at one of its ends. -/
def IsBoundary (text : String) (offset : Nat) : Prop := (⟨offset⟩ : String.Pos.Raw).IsValid text

lemma length_bytes (text : String) : (bytes text).length = text.utf8ByteSize := by
  rw [bytes_eq_encode, length_encode, ← String.ofList_toList (s := text)]
  simp only [String.toList_ofList]
  induction text.toList with
  | nil => rfl
  | cons c cs ih =>
    rw [byteLength_cons, ih, String.ofList_cons, String.utf8ByteSize_append,
      String.utf8ByteSize_singleton]

lemma byteLength_toList (text : String) : byteLength text.toList = text.utf8ByteSize := by
  rw [← length_bytes, bytes_eq_encode, length_encode]

lemma utf8ByteSize_ofList (cs : List Char) : (String.ofList cs).utf8ByteSize = byteLength cs := by
  rw [← byteLength_toList, String.toList_ofList]

/-- The boundaries of a text are where it can be cut into two. -/
lemma isBoundary_iff {text : String} {offset : Nat} :
    IsBoundary text offset ↔
      ∃ before after, text.toList = before ++ after ∧ byteLength before = offset := by
  rw [IsBoundary, String.Pos.Raw.isValid_iff_exists_append]
  constructor
  · rintro ⟨s, t, rfl, hs⟩
    refine ⟨s.toList, t.toList, String.toList_append, ?_⟩
    rw [← length_encode, ← bytes_eq_encode, length_bytes]
    exact (congrArg String.Pos.Raw.byteIdx hs).symm
  · rintro ⟨before, after, htext, hbefore⟩
    refine ⟨String.ofList before, String.ofList after, ?_, ?_⟩
    · rw [← String.ofList_append, ← htext, String.ofList_toList]
    · rw [← hbefore, ← length_encode, ← bytes_ofList, length_bytes]
      rfl

lemma byteLength_eq_zero_iff {cs : List Char} : byteLength cs = 0 ↔ cs = [] := by
  cases cs with
  | nil => simp
  | cons c cs =>
    have := c.utf8Size_pos
    simp
    omega

/-- Of two fronts of a text, the one with fewer bytes is a front of the other one. -/
lemma exists_append_of_byteLength_le {as bs cs ds : List Char} (h : as ++ bs = cs ++ ds)
    (hlength : byteLength as ≤ byteLength cs) : ∃ more, cs = as ++ more ∧ bs = more ++ ds := by
  rcases List.append_eq_append_iff.1 h with ⟨more, hcs, hbs⟩ | ⟨more, has, hds⟩
  · exact ⟨more, hcs, hbs⟩
  · rw [has, byteLength_append] at hlength
    obtain rfl : more = [] := byteLength_eq_zero_iff.1 (by omega)
    exact ⟨[], by simpa using has.symm, by simpa using hds.symm⟩

/-- The characters at the front of a text are told by how many bytes they take. -/
lemma eq_of_append_of_byteLength_eq {as bs cs ds : List Char} (h : as ++ bs = cs ++ ds)
    (hlength : byteLength as = byteLength cs) : as = cs ∧ bs = ds := by
  obtain ⟨more, rfl, rfl⟩ := exists_append_of_byteLength_le h hlength.le
  rw [byteLength_append] at hlength
  obtain rfl : more = [] := byteLength_eq_zero_iff.1 (by omega)
  exact ⟨(List.append_nil as).symm, rfl⟩

/-- As many characters fit into the bytes of the front of a text as there are in front. -/
lemma charsWithin_byteLength (front rest : List Char) :
    charsWithin (byteLength front) (front ++ rest) = front.length := by
  induction front with
  | nil =>
    cases rest with
    | nil => rfl
    | cons c rest => simp [charsWithin, Nat.not_le.2 c.utf8Size_pos]
  | cons c front ih => simp [charsWithin, ih]

/-! ## Reading characters back -/

/-- The encoding of a character is not the start of the encoding of another one. -/
lemma eq_of_encodeChar_append {c d : Char} {as bs : List UInt8}
    (h : String.utf8EncodeChar c ++ as = String.utf8EncodeChar d ++ bs) : c = d := by
  have hread : ∀ (x : Char) (rest : List UInt8),
      ByteArray.utf8DecodeChar? (String.utf8EncodeChar x ++ rest).toByteArray 0 = some x := by
    intro x rest
    rw [List.toByteArray_append]
    exact ByteArray.utf8DecodeChar?_utf8EncodeChar_append
  have hc := hread c as
  rw [h, hread d bs] at hc
  exact (Option.some.inj hc).symm

/-- Characters are the start of others exactly if their encoding is. -/
lemma encode_prefix_encode_iff {cs ds : List Char} : encode cs <+: encode ds ↔ cs <+: ds := by
  constructor
  · intro h
    induction cs generalizing ds with
    | nil => exact List.nil_prefix
    | cons c cs ih =>
      obtain ⟨rest, hrest⟩ := h
      cases ds with
      | nil =>
        rw [encode_cons, encode_nil, List.append_assoc, List.append_eq_nil_iff] at hrest
        exact absurd hrest.1 String.utf8EncodeChar_ne_nil
      | cons d ds =>
        rw [encode_cons, encode_cons, List.append_assoc] at hrest
        obtain rfl : c = d := eq_of_encodeChar_append hrest
        have htail : encode cs <+: encode ds := ⟨rest, List.append_cancel_left hrest⟩
        exact (List.prefix_cons_inj c).2 (ih htail)
  · rintro ⟨rest, rfl⟩
    rw [encode_append]
    exact List.prefix_append _ _

/-- Where the encoding of some characters is found, one character of the text starts. -/
lemma isBoundary_of_encode_at {text : String} {offset : Nat} {cs : List Char} (hne : cs ≠ [])
    (h : encode cs <+: (bytes text).drop offset) : IsBoundary text offset := by
  obtain ⟨c, cs, rfl⟩ := List.exists_cons_of_ne_nil hne
  obtain ⟨rest, hrest⟩ := h
  rw [encode_cons, List.append_assoc] at hrest
  have hpos : 0 < (String.utf8EncodeChar c).length :=
    List.length_pos_iff.2 String.utf8EncodeChar_ne_nil
  have hlt : offset < (bytes text).length := by
    by_contra hge
    rw [List.drop_eq_nil_of_le (by omega), List.append_eq_nil_iff] at hrest
    exact String.utf8EncodeChar_ne_nil hrest.1
  -- the byte at the offset is the first one of the character
  have hbyte : (bytes text)[offset] = (String.utf8EncodeChar c)[0] := by
    have hhead := congrArg List.head? hrest
    rw [List.head?_drop, List.head?_append_of_ne_nil _ String.utf8EncodeChar_ne_nil,
      List.getElem?_eq_getElem hlt, List.head?_eq_getElem?, List.getElem?_eq_getElem hpos] at hhead
    exact (Option.some.inj hhead).symm
  have hlt' : (⟨offset⟩ : String.Pos.Raw) < text.rawEndPos := by
    rw [length_bytes] at hlt
    exact hlt
  refine String.Pos.Raw.isValid_iff_isUTF8FirstByte.2 (Or.inr ⟨hlt', ?_⟩)
  show (bytes text)[offset].IsUTF8FirstByte
  exact hbyte ▸ UInt8.isUTF8FirstByte_getElem_zero_utf8EncodeChar

/-- The encoding of some characters is found in a text exactly where these characters stand. -/
theorem encode_prefix_drop_iff {text : String} {offset : Nat} {cs : List Char} (hne : cs ≠ []) :
    encode cs <+: (bytes text).drop offset ↔
      ∃ before after, text.toList = before ++ (cs ++ after) ∧ byteLength before = offset := by
  have hdrop : ∀ before after : List Char, text.toList = before ++ after →
      byteLength before = offset → (bytes text).drop offset = encode after := by
    intro before after htext hbefore
    rw [bytes_eq_encode, htext, encode_append, ← hbefore, ← length_encode, List.drop_left]
  constructor
  · intro h
    obtain ⟨before, after, htext, hbefore⟩ := isBoundary_iff.1 (isBoundary_of_encode_at hne h)
    rw [hdrop before after htext hbefore, encode_prefix_encode_iff] at h
    obtain ⟨tail, rfl⟩ := h
    exact ⟨before, tail, htext, hbefore⟩
  · rintro ⟨before, after, htext, hbefore⟩
    rw [hdrop before (cs ++ after) htext hbefore, encode_append]
    exact List.prefix_append _ _

/-! ## Line ends -/

/-- The byte that ends a line. -/
def newline : UInt8 := 0x0a

lemma encode_newline : String.utf8EncodeChar '\n' = [newline] := by decide

/-- A line end is a byte of no other character: it can only be the first byte of one, and then it
is the whole of it. -/
lemma newline_notMem_encodeChar {c : Char} (h : c ≠ '\n') :
    newline ∉ String.utf8EncodeChar c := by
  intro hmem
  obtain ⟨i, hi, hget⟩ := List.getElem_of_mem hmem
  have hfirst : (String.utf8EncodeChar c)[i].IsUTF8FirstByte := by
    rw [hget]
    decide
  obtain rfl : i = 0 := UInt8.isUTF8FirstByte_getElem_utf8EncodeChar.1 hfirst
  have hsplit : String.utf8EncodeChar c ++ [] =
      String.utf8EncodeChar '\n' ++ (String.utf8EncodeChar c).tail := by
    rw [List.append_nil, encode_newline, List.singleton_append, ← hget, List.getElem_zero,
      List.cons_head_tail]
  exact h (eq_of_encodeChar_append hsplit)

/-- Elements that may be taken from the end are taken before those in front of them. -/
lemma rtakeWhile_append_of_forall {α : Type} {f : α → Bool} {l m : List α}
    (h : ∀ x ∈ m, f x = true) : (l ++ m).rtakeWhile f = l.rtakeWhile f ++ m := by
  have hrev : ∀ x ∈ m.reverse, f x = true := fun x hx => h x (List.mem_reverse.1 hx)
  rw [List.rtakeWhile, List.reverse_append, List.takeWhile_append_of_pos hrev,
    List.reverse_append, List.reverse_reverse, List.rtakeWhile]

/-- The last line of two texts goes back into the first one only if the second one has no line
end. -/
lemma length_rtakeWhile_append (xs ys : List UInt8) :
    ((xs ++ ys).rtakeWhile (· != newline)).length =
      (ys.rtakeWhile (· != newline)).length +
        if newline ∈ ys then 0 else (xs.rtakeWhile (· != newline)).length := by
  induction ys using List.reverseRecOn with
  | nil => simp
  | append_singleton ys y ih =>
    rw [← List.append_assoc, List.rtakeWhile_concat, List.rtakeWhile_concat]
    by_cases hy : y = newline
    · simp [hy]
    · simp [hy, Ne.symm hy, ih, Nat.add_right_comm]

end Stencil.Text
