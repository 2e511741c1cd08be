import Stencil.Proofs.Pattern.Reader
import Stencil.Proofs.Pattern.Splice

/-!
# The scan misses no placeholder

The scan passes over a placeholder as a whole and over everything else character by character.
Nothing is lost by this: a name holds no opening brace, so that no placeholder starts inside of
another one.  Therefore the placeholders of a pattern are found by looking at each of its
characters alone (`Placeholder.mem_scanFrom_iff`).

Offsets are counted in bytes.  A pattern can be searched for a placeholder byte by byte all the
same, since the bytes of a name between braces are found only where these characters stand.

The main results are

* `Placeholder.mem_scan_iff`: the placeholders that the scan lists, in terms of characters;
* `Placeholder.scan_exact`: the same in terms of bytes, with the order and the places.
-/

namespace Stencil

/-! ## No placeholder is passed over -/

lemma token?_eq_none_of_ne {bound : Nat} {c : Char} {cs : List Char} (h : c ≠ '{') :
    token? bound (c :: cs) = none := by
  rw [token?, if_neg h]

/-- No placeholder starts in a name or at the brace behind it. -/
lemma token?_drop_eq_none {bound count : Nat} {name rest : List Char}
    (hword : Key.isWord name = true) (hcount : count ≤ name.length) :
    token? bound ((name ++ '}' :: rest).drop count) = none := by
  rw [List.drop_append_of_le_length hcount]
  cases hdrop : name.drop count with
  | nil => exact token?_eq_none_of_ne (by decide)
  | cons c cs =>
    have hmem : c ∈ name := List.mem_of_mem_drop (hdrop ▸ List.mem_cons_self)
    exact token?_eq_none_of_ne (Key.ne_openBrace_of_isWord hword c hmem)

namespace Placeholder

/-- The number of bytes before the text behind a placeholder. -/
def stop (p : Placeholder) : Nat := p.offset + p.name.utf8ByteSize + 2

/-- What is left to scan has a placeholder wherever a text starts that begins with one. -/
theorem mem_scanFrom_iff {bound : Nat} {r : Reader} {p : Placeholder} :
    p ∈ scanFrom bound r ↔
      ∃ count name, token? bound (r.rest.drop count) = some name ∧
        p = ofReader (r.skip count) name := by
  fun_induction scanFrom bound r with
  | case1 r hrest => simp [hrest, token?]
  | case2 r hrest name htoken ih =>
    have hshift : ∀ count, (r.skip (tokenLength name)).rest.drop count =
        r.rest.drop (tokenLength name + count) := fun count => List.drop_drop
    rw [List.mem_cons, ih]
    constructor
    · rintro (rfl | ⟨count, name', htoken', rfl⟩)
      · exact ⟨0, name, htoken, by rw [Reader.skip_zero]⟩
      · exact ⟨tokenLength name + count, name', hshift count ▸ htoken', by rw [Reader.skip_skip]⟩
    · rintro ⟨count, name', htoken', rfl⟩
      obtain ⟨hword, -, tail, hr⟩ := token?_eq_some_iff.1 htoken
      rcases Nat.lt_or_ge count (tokenLength name) with hlt | hge
      · cases count with
        | zero =>
          rw [List.drop_zero, htoken, Option.some.injEq] at htoken'
          subst htoken'
          exact Or.inl (by rw [Reader.skip_zero])
        | succ count =>
          -- no placeholder starts behind the opening brace of another one
          rw [hr, List.cons_append, List.drop_succ_cons,
            token?_drop_eq_none hword (by rw [tokenLength] at hlt; omega)] at htoken'
          cases htoken'
      · obtain ⟨more, rfl⟩ := Nat.exists_eq_add_of_le hge
        exact Or.inr ⟨more, name', (hshift more).symm ▸ htoken', by rw [Reader.skip_skip]⟩
  | case3 r hrest htoken ih =>
    have hshift : ∀ count, (r.skip 1).rest.drop count = r.rest.drop (1 + count) :=
      fun count => List.drop_drop
    rw [ih]
    constructor
    · rintro ⟨count, name, htoken', rfl⟩
      exact ⟨1 + count, name, hshift count ▸ htoken', by rw [Reader.skip_skip]⟩
    · rintro ⟨count, name, htoken', rfl⟩
      cases count with
      | zero =>
        rw [List.drop_zero, htoken] at htoken'
        cases htoken'
      | succ count =>
        rw [Nat.add_comm count 1] at htoken' ⊢
        exact ⟨count, name, (hshift count).symm ▸ htoken', by rw [Reader.skip_skip]⟩

/-- Each placeholder ends before the next one starts. -/
theorem pairwise_scanFrom (bound : Nat) (r : Reader) :
    (scanFrom bound r).Pairwise fun p q => p.stop ≤ q.offset := by
  fun_induction scanFrom bound r with
  | case1 r hrest => exact List.Pairwise.nil
  | case2 r hrest name htoken ih =>
    obtain ⟨-, -, rest, hr⟩ := token?_eq_some_iff.1 htoken
    have hstop : (ofReader r name).stop = (r.skip (tokenLength name)).offset := by
      rw [(Reader.skip_token hr).2, Text.length_bytes]
      rfl
    refine List.Pairwise.cons (fun q hq => ?_) ih
    rw [hstop]
    exact offset_le_of_mem_scanFrom q hq
  | case3 r hrest htoken ih => exact ih

/-- The scan of a pattern lists a placeholder for each place where a name within the bound stands
between braces. -/
theorem mem_scan_iff {bound : Nat} {pattern : String} {p : Placeholder} :
    p ∈ scan bound pattern ↔
      ∃ before name after, pattern.toList = before ++ ('{' :: name ++ '}' :: after) ∧
        Key.isWord name = true ∧ name.length ≤ bound ∧
        p = ⟨String.ofList name, Text.byteLength before,
          Position.start.advance before, UInt32.ofNat (Text.byteLength name + 2)⟩ := by
  rw [scan, mem_scanFrom_iff]
  constructor
  · rintro ⟨count, name, htoken, rfl⟩
    obtain ⟨hword, hlen, after, hrest⟩ := token?_eq_some_iff.1 htoken
    refine ⟨pattern.toList.take count, name, after, ?_, hword, hlen, ?_⟩
    · rw [← hrest]
      exact (List.take_append_drop count _).symm
    · simp only [ofReader, Reader.skip, Reader.ofString, Reader.extent, Nat.zero_add]
  · rintro ⟨before, name, after, hpattern, hword, hlen, rfl⟩
    refine ⟨before.length, name, token?_eq_some_iff.2 ⟨hword, hlen, after, ?_⟩, ?_⟩
    · show pattern.toList.drop before.length = _
      rw [hpattern, List.drop_left]
    · simp only [ofReader, Reader.skip, Reader.ofString, Reader.extent, Nat.zero_add, hpattern,
        List.take_left]

section Front

variable {bound : Nat} {pattern : String} {before back : List Char}

/-- What the scan finds behind some characters, the rest starts with. -/
lemma token?_of_mem_scan (hpattern : pattern.toList = before ++ back) {p : Placeholder}
    (hp : p ∈ scan bound pattern) (hoffset : p.offset = Text.byteLength before) :
    token? bound back = some p.name.toList := by
  obtain ⟨before', name, after, hpattern', hword, hlen, rfl⟩ := mem_scan_iff.1 hp
  obtain ⟨-, rfl⟩ := Text.eq_of_append_of_byteLength_eq (hpattern'.symm.trans hpattern) hoffset
  rw [String.toList_ofList]
  exact token?_name hword hlen after

/-- What the rest behind some characters starts with, the scan finds. -/
lemma exists_mem_scan_of_token? (hpattern : pattern.toList = before ++ back) {name : List Char}
    (htoken : token? bound back = some name) :
    ∃ p ∈ scan bound pattern, p.offset = Text.byteLength before ∧ p.name = String.ofList name := by
  obtain ⟨hword, hlen, after, rfl⟩ := token?_eq_some_iff.1 htoken
  exact ⟨_, mem_scan_iff.2 ⟨before, name, after, hpattern, hword, hlen, rfl⟩, rfl, rfl⟩

/-- All placeholders of a pattern are seen by looking at each of its characters. -/
lemma forall_mem_scan_iff {P : Placeholder → Prop} :
    (∀ p ∈ scan bound pattern, P p) ↔
      ∀ count < pattern.toList.length, ∀ name ∈ token? bound (pattern.toList.drop count),
        P (ofReader ((Reader.ofString pattern).skip count) name) := by
  simp only [scan, mem_scanFrom_iff]
  constructor
  · intro h count _ name htoken
    exact h _ ⟨count, name, htoken, rfl⟩
  · rintro h p ⟨count, name, htoken, rfl⟩
    refine h count ?_ name htoken
    by_contra hend
    rw [Reader.ofString, List.drop_eq_nil_of_le (not_lt.1 hend)] at htoken
    cases htoken

end Front

/-! ## The scan in bytes -/

/-- From a byte of a pattern on, a name within a bound stands between braces. -/
structure TokenAt (bound : Nat) (pattern : String) (offset : Nat) (name : String) : Prop where
  found : Text.bytes ("\x7b" ++ name ++ "\x7d") <+: (Text.bytes pattern).drop offset
  isName : ∃ c rest, name.toList = c :: rest ∧ Key.isStart c = true ∧
    ∀ d ∈ rest, Key.isContinue d = true
  length_le : name.length ≤ bound

/-- A placeholder lies in a pattern where it says: between characters, on the line that is reached
behind the line ends before it, in the column that is reached behind the bytes since the last of
them, and as long as its name and two braces. -/
structure LocatedIn (pattern : String) (p : Placeholder) : Prop where
  offset : Text.IsBoundary pattern p.offset
  stop : Text.IsBoundary pattern p.stop
  line : p.extent.position.line.toNat =
    1 + ((Text.bytes pattern).take p.offset).count Text.newline
  column : p.extent.position.column.toNat =
    1 + (((Text.bytes pattern).take p.offset).rtakeWhile (· != Text.newline)).length
  length : p.extent.length.toNat = p.name.utf8ByteSize + 2

lemma bytes_token (name : String) :
    Text.bytes ("\x7b" ++ name ++ "\x7d") = Text.encode ('{' :: name.toList ++ ['}']) := by
  rw [Text.bytes_eq_encode, String.toList_append, String.toList_append]
  rfl

/-- A name stands between braces at a byte exactly if it does so behind some characters. -/
lemma tokenAt_iff {bound offset : Nat} {pattern name : String} :
    TokenAt bound pattern offset name ↔
      ∃ before after, pattern.toList = before ++ ('{' :: name.toList ++ '}' :: after) ∧
        Text.byteLength before = offset ∧ Key.isWord name.toList = true ∧
        name.toList.length ≤ bound := by
  have hfound : Text.bytes ("\x7b" ++ name ++ "\x7d") <+: (Text.bytes pattern).drop offset ↔
      ∃ before after, pattern.toList = before ++ ('{' :: name.toList ++ '}' :: after) ∧
        Text.byteLength before = offset := by
    rw [bytes_token, Text.encode_prefix_drop_iff (by simp)]
    simp only [List.cons_append, List.append_assoc, List.nil_append]
  constructor
  · rintro ⟨hbytes, ⟨c, rest, hname, hword⟩, hlen⟩
    obtain ⟨before, after, hpattern, hoffset⟩ := hfound.1 hbytes
    refine ⟨before, after, hpattern, hoffset, ?_, hlen⟩
    rw [hname]
    exact Key.isWord_cons.2 hword
  · rintro ⟨before, after, hpattern, hoffset, hword, hlen⟩
    refine ⟨hfound.2 ⟨before, after, hpattern, hoffset⟩, ?_, hlen⟩
    cases hname : name.toList with
    | nil =>
      rw [hname] at hword
      cases hword
    | cons c rest =>
      rw [hname] at hword
      exact ⟨c, rest, rfl, Key.isWord_cons.1 hword⟩

lemma exists_mem_scan_iff {bound offset : Nat} {pattern name : String} :
    (∃ p ∈ scan bound pattern, p.offset = offset ∧ p.name = name) ↔
      TokenAt bound pattern offset name := by
  rw [tokenAt_iff]
  constructor
  · rintro ⟨p, hp, rfl, rfl⟩
    obtain ⟨before, name, after, hpattern, hword, hlen, rfl⟩ := mem_scan_iff.1 hp
    simp only [String.toList_ofList]
    exact ⟨before, after, hpattern, rfl, hword, hlen⟩
  · rintro ⟨before, after, hpattern, rfl, hword, hlen⟩
    exact ⟨_, mem_scan_iff.2 ⟨before, name.toList, after, hpattern, hword, hlen, rfl⟩, rfl,
      String.ofList_toList⟩

lemma locatedIn_of_mem_scan {bound : Nat} {pattern : String}
    (hsize : pattern.utf8ByteSize < 2 ^ 32 - 1) {p : Placeholder} (hp : p ∈ scan bound pattern) :
    p.LocatedIn pattern := by
  obtain ⟨before, name, after, hpattern, -, -, rfl⟩ := mem_scan_iff.1 hp
  have hname := Text.utf8ByteSize_ofList name
  have htotal : pattern.utf8ByteSize =
      Text.byteLength before + (Text.byteLength name + 2 + Text.byteLength after) := by
    rw [← Text.byteLength_toList, hpattern, Text.byteLength_append, byteLength_token]
  have hbefore : (Text.bytes pattern).take (Text.byteLength before) = Text.encode before := by
    rw [Text.bytes_eq_encode, hpattern, Text.encode_append, ← Text.length_encode, List.take_left]
  have hcount : 1 + Text.byteLength before < 2 ^ 32 := by omega
  obtain ⟨hline, hcolumn⟩ := Position.toNat_advance_start hcount
  refine ⟨?_, ?_, ?_, ?_, ?_⟩
  · exact Text.isBoundary_iff.2 ⟨before, _, hpattern, rfl⟩
  · refine Text.isBoundary_iff.2 ⟨before ++ ('{' :: name ++ ['}']), after, by simp [hpattern], ?_⟩
    rw [stop, hname, Text.byteLength_append, byteLength_token]
    rfl
  · rw [hbefore]
    exact hline
  · rw [hbefore]
    exact hcolumn
  · rw [hname, UInt32.toNat_ofNat', Nat.mod_eq_of_lt (by omega)]

/-- **The scan is exact.**  It lists the names that stand between braces in a pattern and have no
more characters than the bound, each once and from left to right, without overlaps.  In a pattern
whose bytes can be counted, each of them lies where it says. -/
theorem scan_exact (bound : Nat) (pattern : String) (hsize : pattern.utf8ByteSize < 2 ^ 32 - 1) :
    (∀ offset name, (∃ p ∈ scan bound pattern, p.offset = offset ∧ p.name = name) ↔
        TokenAt bound pattern offset name) ∧
      (scan bound pattern).Pairwise (fun p q => p.offset < q.offset ∧ p.stop ≤ q.offset) ∧
      ∀ p ∈ scan bound pattern, p.LocatedIn pattern := by
  refine ⟨fun offset name => exists_mem_scan_iff, ?_, fun p hp => locatedIn_of_mem_scan hsize hp⟩
  refine (pairwise_scanFrom bound _).imp fun {p q} h => ⟨?_, h⟩
  rw [stop] at h
  omega

/-- A pattern with stray, doubled and unclosed braces and with characters of several bytes. -/
theorem scan_exact_stray_braces :
    let pattern := "é\n\x7b\x7bÖl\x7d\x7d \x7bOk\x7bErr\x7d \x7bErr"
    pattern.utf8ByteSize < 2 ^ 32 - 1 ∧
      (∀ offset name, (∃ p ∈ scan 3 pattern, p.offset = offset ∧ p.name = name) ↔
          TokenAt 3 pattern offset name) ∧
        (scan 3 pattern).Pairwise (fun p q => p.offset < q.offset ∧ p.stop ≤ q.offset) ∧
        ∀ p ∈ scan 3 pattern, p.LocatedIn pattern := by
  intro pattern
  have hsize : pattern.utf8ByteSize < 2 ^ 32 - 1 := by decide
  exact ⟨hsize, scan_exact 3 pattern hsize⟩

end Placeholder

end Stencil
