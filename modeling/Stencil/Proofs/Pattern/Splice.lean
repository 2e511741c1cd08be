import Stencil.Pattern.Coverage
import Stencil.Proofs.Pattern.Styles
import Stencil.Proofs.Text.Encoding

/-!
# Filling as splicing

The scan of a pattern lists its placeholders and passes over each of them as a whole.  Filling
does not scan: it stops at every opening brace, and behind a brace where it recognises nothing it
goes on with the next character, be that the first one of a name that is not bound.  Still both
cut the pattern at the same places, since a name holds no brace to stop at.

The main result is `Filler.fill_eq_splice`: the filled pattern is the pattern with a piece of text
in the place of each placeholder that the scan lists, and all other bytes as they were.
-/

namespace Stencil

/-- What stands in the place of a placeholder in a filled pattern: what its name is bound to, and
else the placeholder as it is written. -/
def Placeholder.filling (b : Bindings) (p : Placeholder) : String :=
  (b.replacement? p.name).getD ("\x7b" ++ p.name ++ "\x7d")

/-- The bytes of a text from an offset on, with a piece in the place of each placeholder.  A
placeholder takes the bytes of its name and two for its braces. -/
def splice (piece : Placeholder → String) (bytes : List UInt8) (start : Nat) :
    List Placeholder → List UInt8
  | [] => bytes.drop start
  | p :: rest =>
    (bytes.take p.offset).drop start ++ Text.bytes (piece p) ++
      splice piece bytes (p.offset + (Text.bytes p.name).length + 2) rest

/-- Bytes in front of all placeholders are copied. -/
lemma splice_append {piece : Placeholder → String} {bytes copied : List UInt8} {start : Nat}
    {ps : List Placeholder}
    (hbytes : bytes.drop start = copied ++ bytes.drop (start + copied.length))
    (hps : ∀ p ∈ ps, start + copied.length ≤ p.offset) :
    splice piece bytes start ps = copied ++ splice piece bytes (start + copied.length) ps := by
  cases ps with
  | nil => exact hbytes
  | cons p ps =>
    have hp : start + copied.length ≤ p.offset := hps p List.mem_cons_self
    have hslice : (bytes.take p.offset).drop start =
        copied ++ (bytes.take p.offset).drop (start + copied.length) := by
      rw [List.drop_take, hbytes, List.take_append, List.take_of_length_le (by omega),
        List.drop_take, Nat.sub_sub]
    rw [splice, hslice, splice, List.append_assoc, List.append_assoc, List.append_assoc]

lemma splice_congr {piece piece' : Placeholder → String} {bytes : List UInt8} {start : Nat}
    {ps : List Placeholder} (h : ∀ p ∈ ps, piece p = piece' p) :
    splice piece bytes start ps = splice piece' bytes start ps := by
  induction ps generalizing start with
  | nil => rfl
  | cons p ps ih =>
    rw [splice, splice, h p List.mem_cons_self, ih fun q hq => h q (List.mem_cons_of_mem p hq)]

/-! ## Where the scan stands -/

/-- A reader stands in a text where its offset says. -/
def Reader.StandsIn (bytes : List UInt8) (r : Reader) : Prop :=
  bytes.drop r.offset = Text.encode r.rest

/-- The braces of a placeholder take one byte each. -/
lemma byteLength_token (name rest : List Char) :
    Text.byteLength ('{' :: name ++ '}' :: rest) =
      Text.byteLength name + 2 + Text.byteLength rest := by
  have hbrace : '{'.utf8Size = 1 ∧ '}'.utf8Size = 1 := by decide
  simp only [Text.byteLength_append, Text.byteLength_cons, hbrace]
  omega

namespace Reader

lemma standsIn_ofString (text : String) : (ofString text).StandsIn (Text.bytes text) :=
  Text.bytes_eq_encode text

variable {bytes : List UInt8} {r : Reader}

lemma StandsIn.skip (h : r.StandsIn bytes) (count : Nat) : (r.skip count).StandsIn bytes := by
  have hsplit : Text.encode r.rest =
      Text.encode (r.rest.take count) ++ Text.encode (r.rest.drop count) := by
    rw [← Text.encode_append, List.take_append_drop]
  show bytes.drop (r.offset + Text.byteLength (r.rest.take count)) =
    Text.encode (r.rest.drop count)
  rw [← List.drop_drop, h, hsplit, ← Text.length_encode, List.drop_left]

/-- What a skip passes over are the bytes up to the new offset. -/
lemma StandsIn.drop_offset (h : r.StandsIn bytes) (count : Nat) :
    bytes.drop r.offset =
      Text.encode (r.rest.take count) ++
        bytes.drop (r.offset + (Text.encode (r.rest.take count)).length) := by
  have hskip : bytes.drop (r.offset + (Text.encode (r.rest.take count)).length) =
      Text.encode (r.rest.drop count) := by
    rw [Text.length_encode]
    exact h.skip count
  rw [hskip, ← Text.encode_append, List.take_append_drop, h]

/-- A placeholder is passed over as a whole. -/
lemma skip_token_eq {r : Reader} {name rest : List Char}
    (h : r.rest = '{' :: name ++ '}' :: rest) :
    r.skip (tokenLength name) = ⟨rest, r.offset + Text.byteLength ('{' :: name ++ ['}']),
      r.position.advance ('{' :: name ++ ['}'])⟩ := by
  have hsplit : r.rest = ('{' :: name ++ ['}']) ++ rest := by rw [h]; simp
  have hlength : tokenLength name = ('{' :: name ++ ['}']).length := by simp [tokenLength]
  rw [skip, hsplit, hlength, List.drop_left, List.take_left]

/-- Behind a placeholder the reader has passed over its name and two braces. -/
lemma skip_token {r : Reader} {name rest : List Char} (h : r.rest = '{' :: name ++ '}' :: rest) :
    (r.skip (tokenLength name)).rest = rest ∧
      (r.skip (tokenLength name)).offset =
        r.offset + (Text.bytes (String.ofList name)).length + 2 := by
  rw [skip_token_eq h, Text.bytes_ofList, Text.length_encode, byteLength_token]
  exact ⟨rfl, rfl⟩

end Reader

namespace Placeholder

/-- No placeholder stands behind the reader that finds it. -/
lemma offset_le_of_mem_scanFrom {bound : Nat} {r : Reader} :
    ∀ p ∈ scanFrom bound r, r.offset ≤ p.offset := by
  fun_induction scanFrom bound r with
  | case1 r hrest => simp
  | case2 r hrest name htoken ih =>
    intro p hp
    rcases List.mem_cons.1 hp with rfl | hp
    · exact Nat.le_refl _
    · exact Nat.le_trans (Nat.le_add_right _ _) (ih p hp)
  | case3 r hrest htoken ih =>
    intro p hp
    exact Nat.le_trans (Nat.le_add_right _ _) (ih p hp)

end Placeholder

/-! ## Filling along the scan -/

/-- Text without an opening brace is copied. -/
lemma fillWith_append {hit? : List Char → Option Hit} {cs : List Char} (h : ∀ c ∈ cs, c ≠ '{')
    (rest : List Char) : fillWith hit? (cs ++ rest) = cs ++ fillWith hit? rest := by
  induction cs with
  | nil => rfl
  | cons c cs ih =>
    rw [List.cons_append, fillWith_text (h c List.mem_cons_self),
      ih fun d hd => h d (List.mem_cons_of_mem c hd), List.cons_append]

namespace Filler

variable (f : Filler) (b : Bindings)

/-- A placeholder is replaced as a whole or copied as a whole. -/
lemma fillWith_token {name : List Char} (hword : Key.isWord name = true)
    (hlen : name.length ≤ f.bound) (rest : List Char) :
    fillWith (f.hit? b) ('{' :: name ++ '}' :: rest) =
      ((b.replacement? (String.ofList name)).getD
        ("\x7b" ++ String.ofList name ++ "\x7d")).toList ++ fillWith (f.hit? b) rest := by
  have hname : leadingName? f.bound (name ++ '}' :: rest) = some name :=
    leadingName?_eq_some_iff.2 ⟨hword, hlen, rest, rfl⟩
  have hhit : f.hit? b (name ++ '}' :: rest) =
      (b.replacement? (String.ofList name)).map fun text => ⟨name, text.toList⟩ := by
    rw [hit?_eq_byName?, Hit.byName?, hname, Option.bind_some]
  rw [List.cons_append]
  cases hb : b.replacement? (String.ofList name) with
  | some text =>
    rw [hb, Option.map_some] at hhit
    rw [fillWith_hit hhit]
    simp
  | none =>
    rw [hb, Option.map_none] at hhit
    rw [fillWith_open hhit, fillWith_append (Key.ne_openBrace_of_isWord hword),
      fillWith_text (by decide)]
    simp

/-- A character that starts no placeholder is copied. -/
lemma fillWith_text_of_token?_eq_none {c : Char} {cs : List Char}
    (h : token? f.bound (c :: cs) = none) :
    fillWith (f.hit? b) (c :: cs) = c :: fillWith (f.hit? b) cs := by
  by_cases hc : c = '{'
  · subst hc
    rw [token?, if_pos rfl] at h
    refine fillWith_open ?_
    rw [hit?_eq_byName?, Hit.byName?, h, Option.bind_none]
  · exact fillWith_text hc cs

/-- Filling what a reader has left to read is splicing from its offset on. -/
lemma splice_scanFrom {bytes : List UInt8} (r : Reader) (h : r.StandsIn bytes) :
    splice (Placeholder.filling b) bytes r.offset (Placeholder.scanFrom f.bound r) =
      Text.encode (fillWith (f.hit? b) r.rest) := by
  fun_induction Placeholder.scanFrom f.bound r with
  | case1 r hrest =>
    rw [splice, h, hrest, fillWith_nil]
  | case2 r hrest name htoken ih =>
    -- the scan passes over the whole placeholder, filling replaces it or copies it as a whole
    obtain ⟨hword, hlen, rest, hr⟩ := token?_eq_some_iff.1 htoken
    obtain ⟨hnext, hoffset⟩ := Reader.skip_token hr
    have hgap : (bytes.take r.offset).drop r.offset = [] :=
      List.drop_eq_nil_of_le (List.length_take_le _ _)
    rw [splice]
    show (bytes.take r.offset).drop r.offset ++ _ ++ splice _ _
      (r.offset + (Text.bytes (String.ofList name)).length + 2) _ = _
    rw [hgap, ← hoffset, ih (h.skip _), hnext, hr, fillWith_token f b hword hlen,
      Text.encode_append, ← Text.bytes_eq_encode]
    rfl
  | case3 r hrest htoken ih =>
    -- one character is copied, and all placeholders found later stand behind it
    obtain ⟨c, cs, hr⟩ := List.exists_cons_of_ne_nil hrest
    have hoffset : r.offset + (Text.encode (r.rest.take 1)).length = (r.skip 1).offset := by
      rw [Text.length_encode]
      rfl
    have hps : ∀ p ∈ Placeholder.scanFrom f.bound (r.skip 1),
        r.offset + (Text.encode (r.rest.take 1)).length ≤ p.offset := by
      rw [hoffset]
      exact Placeholder.offset_le_of_mem_scanFrom
    rw [splice_append (h.drop_offset 1) hps, hoffset, ih (h.skip 1)]
    rw [hr] at htoken
    rw [hr, fillWith_text_of_token?_eq_none f b htoken]
    simp [Reader.skip, hr]

/-- The placeholders of the filler are those along which its fillings are spliced in. -/
lemma bytes_fill (pattern : String) :
    Text.bytes (f.fill pattern b) =
      splice (Placeholder.filling b) (Text.bytes pattern) 0 (f.placeholders pattern) := by
  rw [fill, Text.bytes_ofList]
  exact (splice_scanFrom f b _ (Reader.standsIn_ofString pattern)).symm

/-- **Filling is splicing.**  In either style the filled pattern is the pattern with the filling of
each scanned placeholder in its place, and the placeholders that are left as they stand are those
that the coverage lists as missing. -/
theorem fill_eq_splice (style : Style) (bound : Nat) (pattern : String) (b : Bindings) :
    Text.bytes (fill ⟨style, bound⟩ pattern b) =
        splice (Placeholder.filling b) (Text.bytes pattern) 0 (Placeholder.scan bound pattern) ∧
      (Coverage.between (Placeholder.scan bound pattern) b).missing =
        (Placeholder.scan bound pattern).filter fun p => b.replacement? p.name = none := by
  constructor
  · rw [fill, Text.bytes_ofList]
    exact (splice_scanFrom ⟨style, bound⟩ b _ (Reader.standsIn_ofString pattern)).symm
  · refine List.filter_congr fun p _ => ?_
    cases h : b.get? p.name <;> simp [Bindings.contains, Bindings.replacement?, h]

end Filler

end Stencil
