import Stencil.Proofs.Pattern.Pieces
import Stencil.Proofs.Pattern.Scan

/-!
# Patterns one behind the other

A pattern can be cut in two and each part be read on its own, as long as the cut goes through no
placeholder.  An opening brace or half a name at the end of the first part does no harm then: what
comes behind it cannot make a placeholder of it, or the cut would go through one.

The placeholders of the second part are found where they were, but moved: by the bytes of the first
part, by its line ends, and on the line where the cut is by the bytes of its last line.

The main result is `Filler.fill_scan_append`: filling and scanning in two parts.
-/

namespace Stencil

/-! ## Cuts -/

/-- What is put behind a text does not change with which placeholder the text or an end of it
starts. -/
def Separates (bound : Nat) (as bs : List Char) : Prop :=
  ∀ back, back <:+ as → back ≠ [] → token? bound (back ++ bs) = token? bound back

variable {bound : Nat}

lemma token?_append {as name : List Char} (bs : List Char) (h : token? bound as = some name) :
    token? bound (as ++ bs) = some name := by
  obtain ⟨hword, hlen, rest, rfl⟩ := token?_eq_some_iff.1 h
  exact token?_eq_some_iff.2 ⟨hword, hlen, rest ++ bs, by simp⟩

/-- A cut through no placeholder separates. -/
lemma separates_of_scan {a b : String}
    (hcut : ∀ p ∈ Placeholder.scan bound (a ++ b),
      ¬ (p.offset < a.utf8ByteSize ∧ a.utf8ByteSize < p.stop)) :
    Separates bound a.toList b.toList := by
  rintro back ⟨front, ha⟩ hne
  refine Option.ext fun name => ⟨fun h => ?_, token?_append _⟩
  have hsize : a.utf8ByteSize = Text.byteLength front + Text.byteLength back := by
    rw [← Text.byteLength_toList, ← ha, Text.byteLength_append]
  have hpos : Text.byteLength back ≠ 0 := mt Text.byteLength_eq_zero_iff.1 hne
  have hpattern : (a ++ b).toList = front ++ (back ++ b.toList) := by
    rw [String.toList_append, ← ha, List.append_assoc]
  obtain ⟨p, hp, hoffset, hname⟩ := Placeholder.exists_mem_scan_of_token? hpattern h
  have hthrough := hcut p hp
  rw [Placeholder.stop, hoffset, hname, Text.utf8ByteSize_ofList] at hthrough
  obtain ⟨hword, hlen, rest, hsplit⟩ := token?_eq_some_iff.1 h
  -- the placeholder takes no more bytes than there are in front of the cut
  have hbytes : Text.byteLength ('{' :: name ++ ['}']) ≤ Text.byteLength back := by
    rw [byteLength_token, Text.byteLength_nil]
    omega
  obtain ⟨tail, hback, -⟩ := Text.exists_append_of_byteLength_le
    (show ('{' :: name ++ ['}']) ++ rest = back ++ b.toList by simp [hsplit]) hbytes
  exact token?_eq_some_iff.2 ⟨hword, hlen, tail, by simpa using hback⟩

/-! ## Reading in two parts -/

lemma Separates.of_suffix {as bs cs : List Char} (h : Separates bound as bs) (hcs : cs <:+ as) :
    Separates bound cs bs :=
  fun _ hback => h _ (hback.trans hcs)

lemma Separates.token?_eq_none {c : Char} {cs bs : List Char} (h : Separates bound (c :: cs) bs)
    (htoken : token? bound (c :: cs) = none) : token? bound (c :: (cs ++ bs)) = none :=
  (h _ (List.suffix_refl _) (List.cons_ne_nil c cs)).trans htoken

lemma token_append_assoc (name rest bs : List Char) :
    ('{' :: name ++ '}' :: rest) ++ bs = '{' :: name ++ '}' :: (rest ++ bs) := by simp

/-- The pieces of a text that is cut through no placeholder are those of its parts. -/
lemma Piece.ofChars_append {as bs : List Char} (h : Separates bound as bs) :
    Piece.ofChars bound 0 (as ++ bs) = Piece.ofChars bound 0 as ++ Piece.ofChars bound 0 bs := by
  induction as using pattern_induction bound with
  | nil => rfl
  | text c cs htoken ih =>
    rw [List.cons_append, ofChars_text (h.token?_eq_none htoken), ofChars_text htoken,
      ih (h.of_suffix (List.suffix_cons c cs)), List.cons_append]
  | token name rest hword hlen ih =>
    rw [token_append_assoc, ofChars_token hword hlen, ofChars_token hword hlen,
      ih (h.of_suffix (suffix_token name rest)), List.cons_append]

namespace Placeholder

variable {offset : Nat} {position : Position}

lemma scanFrom_cons {c : Char} {cs : List Char} (h : token? bound (c :: cs) = none) :
    scanFrom bound ⟨c :: cs, offset, position⟩ =
      scanFrom bound ⟨cs, offset + Text.byteLength [c], position.advance [c]⟩ := by
  rw [scanFrom_text (List.cons_ne_nil c cs) h]
  rfl

lemma scanFrom_token_cons {name : List Char} (hword : Key.isWord name = true)
    (hlen : name.length ≤ bound) (rest : List Char) :
    scanFrom bound ⟨'{' :: name ++ '}' :: rest, offset, position⟩ =
      ofReader ⟨[], offset, position⟩ name ::
        scanFrom bound ⟨rest, offset + Text.byteLength ('{' :: name ++ ['}']),
          position.advance ('{' :: name ++ ['}'])⟩ := by
  rw [scanFrom_token (token?_name hword hlen rest), Reader.skip_token_eq rfl]
  rfl

/-- Behind the first part the scan goes on from where the first part ends. -/
lemma scanFrom_append {as bs : List Char} (h : Separates bound as bs) :
    scanFrom bound ⟨as ++ bs, offset, position⟩ =
      scanFrom bound ⟨as, offset, position⟩ ++
        scanFrom bound ⟨bs, offset + Text.byteLength as, position.advance as⟩ := by
  induction as using pattern_induction bound generalizing offset position with
  | nil =>
    rw [scanFrom_nil (r := ⟨[], offset, position⟩) rfl]
    rfl
  | text c cs htoken ih =>
    rw [List.cons_append, scanFrom_cons (h.token?_eq_none htoken), scanFrom_cons htoken,
      ih (h.of_suffix (List.suffix_cons c cs)), Nat.add_assoc, ← Text.byteLength_append,
      ← Position.advance_append]
    rfl
  | token name rest hword hlen ih =>
    have hsplit : '{' :: name ++ '}' :: rest = ('{' :: name ++ ['}']) ++ rest := by simp
    rw [token_append_assoc, scanFrom_token_cons hword hlen, scanFrom_token_cons hword hlen,
      ih (h.of_suffix (suffix_token name rest)), List.cons_append, Nat.add_assoc,
      ← Text.byteLength_append, ← Position.advance_append, hsplit]
    rfl

/-! ## Moved placeholders -/

/-- A placeholder is found again behind a text: under its name, with as many bytes and as many line
ends more in front of it as the text has.  On the first line the last line of the text is in front
of it too, on any other line it is found in the column where it was. -/
structure MovedBy (front : String) (p q : Placeholder) : Prop where
  name : q.name = p.name
  offset : q.offset = p.offset + front.utf8ByteSize
  length : q.extent.length = p.extent.length
  line : q.extent.position.line.toNat =
    p.extent.position.line.toNat + (Text.bytes front).count Text.newline
  column : q.extent.position.column.toNat =
    p.extent.position.column.toNat +
      if p.extent.position.line = 1
      then ((Text.bytes front).rtakeWhile (· != Text.newline)).length else 0

/-- What is found in a text depends on where the reading starts only in the place where it is found:
behind some characters of the text. -/
lemma forall₂_scanFrom {R : Placeholder → Placeholder → Prop} {text front cs : List Char}
    {m n : Nat} {p q : Position} (htext : text = front ++ cs)
    (h : ∀ before name, before <+: text →
      R (ofReader ⟨[], m + Text.byteLength before, p.advance before⟩ name)
        (ofReader ⟨[], n + Text.byteLength before, q.advance before⟩ name)) :
    List.Forall₂ R (scanFrom bound ⟨cs, m + Text.byteLength front, p.advance front⟩)
      (scanFrom bound ⟨cs, n + Text.byteLength front, q.advance front⟩) := by
  have hbehind : ∀ (k : Nat) (as bs : List Char),
      k + Text.byteLength as + Text.byteLength bs = k + Text.byteLength (as ++ bs) := by
    intro k as bs
    rw [Text.byteLength_append, Nat.add_assoc]
  induction cs using pattern_induction bound generalizing front with
  | nil =>
    rw [scanFrom_nil rfl, scanFrom_nil rfl]
    exact List.Forall₂.nil
  | text c cs htoken ih =>
    have hrest : text = (front ++ [c]) ++ cs := by rw [htext, List.append_assoc]; rfl
    rw [scanFrom_cons htoken, scanFrom_cons htoken, hbehind, hbehind, ← Position.advance_append,
      ← Position.advance_append]
    exact ih hrest
  | token name rest hword hlen ih =>
    have hrest : text = (front ++ ('{' :: name ++ ['}'])) ++ rest := by rw [htext]; simp
    rw [scanFrom_token_cons hword hlen, scanFrom_token_cons hword hlen, hbehind, hbehind,
      ← Position.advance_append, ← Position.advance_append]
    exact List.Forall₂.cons (h front name ⟨_, htext.symm⟩) (ih hrest)

lemma movedBy_of_prefix {a b : String} (hsize : (a ++ b).utf8ByteSize < 2 ^ 32 - 1)
    {before : List Char} (hbefore : before <+: b.toList) (name : List Char) :
    MovedBy a (ofReader ⟨[], 0 + Text.byteLength before, Position.start.advance before⟩ name)
      (ofReader ⟨[], 0 + Text.byteLength a.toList + Text.byteLength before,
        (Position.start.advance a.toList).advance before⟩ name) := by
  have htotal : Text.byteLength a.toList + Text.byteLength before ≤ (a ++ b).utf8ByteSize := by
    obtain ⟨after, hafter⟩ := hbefore
    rw [String.utf8ByteSize_append, ← Text.byteLength_toList a, ← Text.byteLength_toList b,
      ← hafter, Text.byteLength_append]
    omega
  have hcount : 1 + Text.byteLength before < 2 ^ 32 := by omega
  have hcount' : 1 + Text.byteLength (a.toList ++ before) < 2 ^ 32 := by
    rw [Text.byteLength_append]
    omega
  obtain ⟨hline, hcolumn⟩ := Position.toNat_advance_start hcount
  obtain ⟨hline', hcolumn'⟩ := Position.toNat_advance_start hcount'
  rw [← Position.advance_append]
  rw [Text.encode_append, ← Text.bytes_eq_encode] at hline' hcolumn'
  refine ⟨rfl, ?_, rfl, ?_, ?_⟩
  · rw [← Text.byteLength_toList a]
    show 0 + Text.byteLength a.toList + Text.byteLength before = 0 + Text.byteLength before + _
    omega
  · show (Position.start.advance (a.toList ++ before)).line.toNat = _
    rw [hline', List.count_append]
    show _ = (Position.start.advance before).line.toNat + _
    omega
  · show (Position.start.advance (a.toList ++ before)).column.toNat =
      (Position.start.advance before).column.toNat +
        if (Position.start.advance before).line = 1 then _ else 0
    have hfirst : (Position.start.advance before).line = 1 ↔
        Text.newline ∉ Text.encode before := by
      rw [← UInt32.toNat_inj, hline, ← List.count_eq_zero]
      show 1 + _ = 1 ↔ _
      omega
    rw [hcolumn', Text.length_rtakeWhile_append, hcolumn, if_congr hfirst rfl rfl, ite_not,
      Nat.add_assoc]

end Placeholder

namespace Filler

/-- **Patterns are filled and scanned in parts.**  If no placeholder begins before and ends behind
the place where a pattern is cut, then in either style the filled pattern is the two parts, each
filled on its own, and the placeholders are those of the first part and behind them those of the
second part, moved by the first part. -/
theorem fill_scan_append (style : Style) (bound : Nat) (a b : String) (bindings : Bindings)
    (hsize : (a ++ b).utf8ByteSize < 2 ^ 32 - 1)
    (hcut : ∀ p ∈ Placeholder.scan bound (a ++ b),
      ¬ (p.offset < a.utf8ByteSize ∧ a.utf8ByteSize < p.stop)) :
    fill ⟨style, bound⟩ (a ++ b) bindings =
        fill ⟨style, bound⟩ a bindings ++ fill ⟨style, bound⟩ b bindings ∧
      ∃ moved, Placeholder.scan bound (a ++ b) = Placeholder.scan bound a ++ moved ∧
        List.Forall₂ (Placeholder.MovedBy a) (Placeholder.scan bound b) moved := by
  have hseparates := separates_of_scan hcut
  constructor
  · rw [← String.toList_inj, String.toList_append, toList_fill, toList_fill, toList_fill,
      Piece.ofPattern, Piece.ofPattern, Piece.ofPattern, String.toList_append,
      Piece.ofChars_append hseparates, List.flatMap_append]
  · have htext : b.toList = [] ++ b.toList := rfl
    have hmoved : List.Forall₂ (Placeholder.MovedBy a) (Placeholder.scan bound b)
        (Placeholder.scanFrom bound
          ⟨b.toList, 0 + Text.byteLength a.toList, Position.start.advance a.toList⟩) :=
      Placeholder.forall₂_scanFrom htext fun before name hbefore =>
        Placeholder.movedBy_of_prefix hsize hbefore name
    refine ⟨_, ?_, hmoved⟩
    rw [Placeholder.scan, Reader.ofString, String.toList_append,
      Placeholder.scanFrom_append hseparates]
    rfl

/-- A part that ends in an open brace and the start of a name, with a line end and a character of
two bytes in it, and a part on two lines behind it. -/
theorem fill_scan_append_open_brace :
    let a := "é\x7bName\x7d\n\x7bNa"
    let b := "\x7bName\x7d \x7bNa\nme\x7d\x7bName\x7d"
    let bindings := Bindings.empty.put .name (some "ö")
    (a ++ b).utf8ByteSize < 2 ^ 32 - 1 ∧
      (∀ p ∈ Placeholder.scan 4 (a ++ b),
        ¬ (p.offset < a.utf8ByteSize ∧ a.utf8ByteSize < p.stop)) ∧
      fill ⟨.simple, 4⟩ (a ++ b) bindings =
        fill ⟨.simple, 4⟩ a bindings ++ fill ⟨.simple, 4⟩ b bindings ∧
      ∃ moved, Placeholder.scan 4 (a ++ b) = Placeholder.scan 4 a ++ moved ∧
        List.Forall₂ (Placeholder.MovedBy a) (Placeholder.scan 4 b) moved := by
  intro a b bindings
  have hsize : (a ++ b).utf8ByteSize < 2 ^ 32 - 1 := by decide
  have hcut : ∀ p ∈ Placeholder.scan 4 (a ++ b),
      ¬ (p.offset < a.utf8ByteSize ∧ a.utf8ByteSize < p.stop) := by
    exact Placeholder.forall_mem_scan_iff.2 (by decide +kernel)
  exact ⟨hsize, hcut, fill_scan_append .simple 4 a b bindings hsize hcut⟩

end Filler

end Stencil
