import Mathlib.Algebra.Group.Nat.Defs
import Stencil.Pattern.Reader
import Stencil.Proofs.Text.Boundary

/-!
# Where a reader stands

A reader keeps what is left of a text, an offset, a line and a column, and each movement changes
all of them on its own.  They never drift apart: whatever a reader is asked for, what it has passed
over and what it has left make up the text, and offset, line and column are those of what it has
passed over.  So a reader of a text is determined by its offset.

The main results are

* `Position.advance_eq`: line and column over a stretch of text, in terms of its bytes;
* `Reader.HasPassed.afterAll`: whatever a reader is asked for, it stands behind some characters of
  its text;
* `Reader.afterAll_exact`: the same, with what each request does.
-/

namespace Stencil

/-! ## Lines and columns -/

namespace Position

lemma advance_concat (p : Position) (cs : List Char) (c : Char) :
    p.advance (cs ++ [c]) = (p.advance cs).step c := by
  rw [advance_append]
  rfl

/-- Over a stretch of text the line goes up by the line ends in it, and the column goes on by the
bytes behind the last of them, from the start of a line if there is one. -/
theorem advance_eq (p : Position) (cs : List Char) :
    p.advance cs =
      ⟨p.line + UInt32.ofNat ((Text.encode cs).count Text.newline),
        (if Text.newline ∈ Text.encode cs then 1 else p.column) +
          UInt32.ofNat ((Text.encode cs).rtakeWhile (· != Text.newline)).length⟩ := by
  induction cs using List.reverseRecOn with
  | nil => simp
  | append_singleton cs c ih =>
    rw [advance_concat, ih, Text.encode_append, Text.encode_cons, Text.encode_nil, List.append_nil]
    by_cases hc : c = '\n'
    · subst hc
      rw [Text.encode_newline, step, if_pos rfl, List.rtakeWhile_concat_neg _ _ _ (by simp)]
      simp [UInt32.add_assoc]
    · have hnone := Text.newline_notMem_encodeChar hc
      have hall : ∀ b ∈ String.utf8EncodeChar c, (b != Text.newline) = true := by
        intro b hb
        rw [bne_iff_ne]
        exact fun hb' => hnone (hb' ▸ hb)
      rw [step, if_neg hc, Text.rtakeWhile_append_of_forall hall, List.count_append,
        List.count_eq_zero_of_not_mem hnone]
      simp [hnone, UInt32.add_assoc]

/-- Behind some characters the line is told by their line ends, and the column by the bytes behind
the last line end, provided that all bytes can be counted. -/
theorem toNat_advance_start {cs : List Char} (h : 1 + Text.byteLength cs < 2 ^ 32) :
    (start.advance cs).line.toNat = 1 + (Text.encode cs).count Text.newline ∧
      (start.advance cs).column.toNat =
        1 + ((Text.encode cs).rtakeWhile (· != Text.newline)).length := by
  have hcount : (Text.encode cs).count Text.newline ≤ Text.byteLength cs := by
    rw [← Text.length_encode]
    exact List.count_le_length
  have hlast : ((Text.encode cs).rtakeWhile (· != Text.newline)).length ≤ Text.byteLength cs := by
    rw [← Text.length_encode]
    exact (List.rtakeWhile_suffix _ _).length_le
  have hword : ∀ n ≤ Text.byteLength cs, (1 + UInt32.ofNat n).toNat = 1 + n := by
    intro n hn
    rw [UInt32.toNat_add, UInt32.toNat_ofNat']
    show (1 + n % 2 ^ 32) % 2 ^ 32 = 1 + n
    omega
  rw [advance_eq]
  exact ⟨hword _ hcount, (congrArg _ (by simp [start])).trans (hword _ hlast)⟩

end Position

/-! ## Requests -/

namespace Reader

/-- What a reader can be asked for. -/
inductive Request where
  /-- The next character. -/
  | head
  /-- To pass over the next character if it is the given one. -/
  | accept (c : Char)
  /-- To pass over everything up to the next occurrence of a character. -/
  | takeUntil (c : Char)
  /-- The stretch of a number of bytes that starts where the reader stands. -/
  | extent (bytes : Nat)
  /-- To pass over a number of bytes. -/
  | skipBytes (bytes : Nat)

/-- The reader behind a request. -/
def after (r : Reader) : Request → Reader
  | .head => r
  | .accept c => (r.accept c).2
  | .takeUntil c => (r.takeUntil c).2
  | .extent _ => r
  | .skipBytes bytes => r.skipBytes bytes

/-- A reader passes over bytes only up to a place between two characters of what is left, or up to
the end of it. -/
def Admits (r : Reader) : Request → Prop
  | .skipBytes bytes => Text.IsBoundary (String.ofList r.rest) bytes
  | _ => True

/-- The reader behind some requests. -/
def afterAll (r : Reader) (requests : List Request) : Reader := requests.foldl after r

/-- A reader admits each of some requests when it comes to it. -/
def AdmitsAll (r : Reader) : List Request → Prop
  | [] => True
  | request :: rest => r.Admits request ∧ (r.after request).AdmitsAll rest

/-- A reader of a text has passed over some characters: with what is left they make up the text, and
offset, line and column are told by them. -/
structure Tracks (text : String) (passed : List Char) (r : Reader) : Prop where
  split : text.toList = passed ++ r.rest
  offset : r.offset = (Text.encode passed).length
  atEnd : r.atEnd = true ↔ passed = text.toList
  line : r.position.line.toNat = 1 + (Text.encode passed).count Text.newline
  column : r.position.column.toNat =
    1 + ((Text.encode passed).rtakeWhile (· != Text.newline)).length

/-- Some characters are the longest start of others that a character does not occur in. -/
structure LongestWithout (c : Char) (rest taken : List Char) : Prop where
  front : taken <+: rest
  without : c ∉ taken
  longest : ∀ other, other <+: rest → c ∉ other → other <+: taken

/-! ## Movements -/

/-- A reader stands behind some characters of a text as if it had passed over them at once. -/
structure HasPassed (text : String) (passed : List Char) (r : Reader) : Prop where
  split : text.toList = passed ++ r.rest
  offset : r.offset = Text.byteLength passed
  position : r.position = Position.start.advance passed

section Accept

variable {r : Reader} {c : Char}

lemma accept_of_next {rest : List Char} (hrest : r.rest = c :: rest) :
    r.accept c = (true, r.skip 1) := by
  rw [accept, if_pos (by rw [head?, hrest, List.head?_cons])]

lemma accept_of_not_next (hrest : ¬ ∃ rest, r.rest = c :: rest) : r.accept c = (false, r) := by
  have hhead : ¬ r.head? = some c := fun h => hrest (List.head?_eq_some_iff.1 h)
  rw [accept, if_neg hhead]

end Accept

variable {text : String} {passed : List Char} {r s : Reader}

namespace HasPassed

lemma ofString (text : String) : (ofString text).HasPassed text [] := ⟨rfl, rfl, rfl⟩

/-- All that a reader keeps is told by what it has passed over. -/
lemma tracks (h : r.HasPassed text passed) (hsize : text.utf8ByteSize < 2 ^ 32 - 1) :
    r.Tracks text passed := by
  have htotal : Text.byteLength passed + Text.byteLength r.rest = text.utf8ByteSize := by
    rw [← Text.byteLength_toList, h.split, Text.byteLength_append]
  have hcount : 1 + Text.byteLength passed < 2 ^ 32 := by omega
  obtain ⟨hline, hcolumn⟩ := Position.toNat_advance_start hcount
  refine ⟨h.split, by rw [h.offset, Text.length_encode], ?_, h.position ▸ hline,
    h.position ▸ hcolumn⟩
  rw [atEnd, List.isEmpty_iff, h.split]
  simp

/-- A skip over the next characters passes over them. -/
lemma skip (h : r.HasPassed text passed) {front rest : List Char} (hrest : r.rest = front ++ rest) :
    (r.skip front.length).HasPassed text (passed ++ front) := by
  have htake : r.rest.take front.length = front := by rw [hrest, List.take_left]
  refine ⟨?_, ?_, ?_⟩
  · rw [h.split, Reader.skip, hrest, List.drop_left, List.append_assoc]
  · rw [Reader.skip, htake, h.offset, Text.byteLength_append]
  · rw [Reader.skip, htake, h.position, Position.advance_append]

lemma accept (h : r.HasPassed text passed) {c : Char} {rest : List Char}
    (hrest : r.rest = c :: rest) : (r.accept c).2.HasPassed text (passed ++ [c]) := by
  rw [accept_of_next hrest]
  have hsplit : r.rest = [c] ++ rest := hrest
  exact h.skip hsplit

lemma takeUntil (h : r.HasPassed text passed) (c : Char) :
    (r.takeUntil c).2.HasPassed text (passed ++ (r.takeUntil c).1) :=
  h.skip List.takeWhile_append_dropWhile.symm

lemma skipBytes (h : r.HasPassed text passed) {front rest : List Char}
    (hrest : r.rest = front ++ rest) :
    (r.skipBytes (Text.byteLength front)).HasPassed text (passed ++ front) := by
  rw [Reader.skipBytes, hrest, Text.charsWithin_byteLength]
  exact h.skip hrest

/-- A reader of a text is determined by its offset. -/
lemma eq_of_offset_eq (h : r.HasPassed text passed) {passed' : List Char}
    (h' : s.HasPassed text passed') (hoffset : r.offset = s.offset) : r = s := by
  rw [h.offset, h'.offset] at hoffset
  obtain ⟨rfl, hrest⟩ := Text.eq_of_append_of_byteLength_eq (h.split.symm.trans h'.split) hoffset
  obtain ⟨rest, offset, position⟩ := r
  obtain ⟨rest', offset', position'⟩ := s
  rw [Reader.mk.injEq]
  exact ⟨hrest, h.offset.trans h'.offset.symm, h.position.trans h'.position.symm⟩

end HasPassed

lemma longestWithout_takeUntil (r : Reader) (c : Char) :
    LongestWithout c r.rest (r.takeUntil c).1 where
  front := List.takeWhile_prefix _
  without := fun hmem => by simpa using List.mem_takeWhile_imp hmem
  longest := by
    rintro other ⟨rest, hrest⟩ hfree
    have hall : ∀ d ∈ other, (d != c) = true := by
      intro d hd
      rw [bne_iff_ne]
      rintro rfl
      exact hfree hd
    rw [takeUntil, ← hrest, List.takeWhile_append_of_pos hall]
    exact List.prefix_append _ _

/-! ## All that requests lead to -/

/-- Behind a request that it admits a reader stands behind some characters of its text again. -/
lemma HasPassed.after (h : r.HasPassed text passed) {request : Request}
    (hadmits : r.Admits request) : ∃ passed', (r.after request).HasPassed text passed' := by
  cases request with
  | head => exact ⟨passed, h⟩
  | extent bytes => exact ⟨passed, h⟩
  | takeUntil c => exact ⟨_, h.takeUntil c⟩
  | accept c =>
    by_cases hnext : ∃ rest, r.rest = c :: rest
    · obtain ⟨rest, hrest⟩ := hnext
      exact ⟨_, h.accept hrest⟩
    · rw [Reader.after, accept_of_not_next hnext]
      exact ⟨passed, h⟩
  | skipBytes bytes =>
    obtain ⟨front, rest, hrest, rfl⟩ := Text.isBoundary_iff.1 hadmits
    rw [String.toList_ofList] at hrest
    exact ⟨_, h.skipBytes hrest⟩

/-- Whatever a reader of a text is asked for, it stands behind some characters of the text. -/
theorem HasPassed.afterAll {requests : List Request} (h : r.HasPassed text passed)
    (hadmits : r.AdmitsAll requests) : ∃ passed', (r.afterAll requests).HasPassed text passed' := by
  induction requests generalizing r passed with
  | nil => exact ⟨passed, h⟩
  | cons request rest ih =>
    obtain ⟨passed', h'⟩ := h.after hadmits.1
    exact ih h' hadmits.2

/-- **A reader keeps its books.**  Whatever a reader of a text is asked for, at every moment what it
has passed over is the front of the text and tells its offset, its line and its column.  A character
is accepted exactly if it is the next one, and a refused one changes nothing; up to a character the
longest stretch without it is passed over; and bytes are passed over as many as were asked for.  So
requests that lead to the same offset lead to the same reader. -/
theorem afterAll_exact (text : String) (hsize : text.utf8ByteSize < 2 ^ 32 - 1)
    {requests : List Request} (hadmits : (ofString text).AdmitsAll requests) :
    let r := (ofString text).afterAll requests
    ∃ passed, r.Tracks text passed ∧
      (∀ c, ((r.accept c).1 = true ↔ ∃ rest, r.rest = c :: rest) ∧
        ((r.accept c).1 = true → (r.accept c).2.Tracks text (passed ++ [c])) ∧
        ((r.accept c).1 = false → (r.accept c).2 = r)) ∧
      (∀ c, LongestWithout c r.rest (r.takeUntil c).1 ∧
        (r.takeUntil c).2.Tracks text (passed ++ (r.takeUntil c).1)) ∧
      (∀ bytes, r.Admits (.skipBytes bytes) →
        ∃ front, front <+: r.rest ∧ (Text.encode front).length = bytes ∧
          (r.skipBytes bytes).Tracks text (passed ++ front)) ∧
      ∀ others, (ofString text).AdmitsAll others →
        ((ofString text).afterAll others).offset = r.offset →
          (ofString text).afterAll others = r := by
  intro r
  obtain ⟨passed, hpassed⟩ := (HasPassed.ofString text).afterAll hadmits
  refine ⟨passed, hpassed.tracks hsize, fun c => ?_, fun c => ?_, fun bytes hbytes => ?_, ?_⟩
  · by_cases hnext : ∃ rest, r.rest = c :: rest
    · obtain ⟨rest, hrest⟩ := hnext
      have htracks := (hpassed.accept hrest).tracks hsize
      rw [accept_of_next hrest] at htracks ⊢
      exact ⟨⟨fun _ => ⟨rest, hrest⟩, fun _ => rfl⟩, fun _ => htracks, nofun⟩
    · rw [accept_of_not_next hnext]
      exact ⟨⟨nofun, fun hyes => absurd hyes hnext⟩, nofun, fun _ => rfl⟩
  · exact ⟨longestWithout_takeUntil r c, (hpassed.takeUntil c).tracks hsize⟩
  · obtain ⟨front, rest, hrest, rfl⟩ := Text.isBoundary_iff.1 hbytes
    rw [String.toList_ofList] at hrest
    exact ⟨front, ⟨rest, hrest.symm⟩, Text.length_encode front,
      (hpassed.skipBytes hrest).tracks hsize⟩
  · intro others hothers hoffset
    obtain ⟨passed', hpassed'⟩ := (HasPassed.ofString text).afterAll hothers
    exact hpassed'.eq_of_offset_eq hpassed hoffset

/-- A text with characters of several bytes and two line ends, read up to its last line in two
ways. -/
theorem afterAll_exact_lines :
    let text := "né\n\x7bÖl\x7d\nx"
    let requests : List Request :=
      [.takeUntil 'é', .head, .skipBytes 3, .accept '{', .accept '{', .takeUntil '\n', .skipBytes 1]
    let others : List Request := [.takeUntil 'x']
    let r : Reader := ⟨['x'], 10, ⟨3, 1⟩⟩
    text.utf8ByteSize < 2 ^ 32 - 1 ∧ (ofString text).AdmitsAll requests ∧
      (ofString text).afterAll requests = r ∧ (∃ passed, r.Tracks text passed) ∧
      (ofString text).afterAll others = r := by
  intro text requests others r
  have hsize : text.utf8ByteSize < 2 ^ 32 - 1 := by decide
  have hrequests : (ofString text).AdmitsAll requests := by
    refine ⟨trivial, trivial, ?_, trivial, trivial, trivial, ?_, trivial⟩
    · exact Text.isBoundary_iff.2 ⟨['é', '\n'], "\x7bÖl\x7d\nx".toList, by decide +kernel⟩
    · exact Text.isBoundary_iff.2 ⟨['\n'], ['x'], by decide +kernel⟩
  have hothers : (ofString text).AdmitsAll others := ⟨trivial, trivial⟩
  have hr : (ofString text).afterAll requests = r := by decide +kernel
  obtain ⟨passed, htracks, -, -, -, hunique⟩ := afterAll_exact text hsize hrequests
  rw [hr] at htracks hunique
  exact ⟨hsize, hrequests, hr, ⟨passed, htracks⟩, hunique others hothers (by decide +kernel)⟩

end Reader

end Stencil
