import Stencil.Proofs.Bindings.Writes
import Stencil.Proofs.Pattern.Scan

/-!
# Names that are read and texts that are keys

A name can be read character by character, with a count of the characters read so far.  Such a
reading ends at a closing brace, and it gives up at the end of a line, at a character that no name
goes on with, and as soon as the count is above the bound.  Whether a text is a key is found out in
another way: all of its characters are looked at, and they are counted once at the end.

Both accept the same names.  This rests on the closing brace and the line ends being characters
that no name goes on with, so that none of them can be met inside of a name.

The main results are

* `readTail?_eq_some_iff`: what reading with a count finds;
* `readName?_eq_leadingName?`: a name is read with a count as it is read at once;
* `leadingName?_exact`: which names are read, and that they are the keys within the bound.
-/

namespace Stencil

/-! ## Reading with a count -/

/-- What a name goes on with, behind as many of its characters as the count says. -/
def readTail? (bound : Nat) : Nat → List Char → Option (List Char)
  | _, [] => none
  | count, c :: rest =>
    if c = '}' then if count ≤ bound then some [] else none
    else if c = '\n' ∨ c = '\r' then none
    else if Key.isContinue c = true then
      if bound < count + 1 then none else (readTail? bound (count + 1) rest).map (c :: ·)
    else none

/-- The name that a text starts with, read character by character. -/
def readName? (bound : Nat) : List Char → Option (List Char)
  | [] => none
  | c :: rest => if Key.isStart c = true then (readTail? bound 1 rest).map (c :: ·) else none

section Reading

variable {bound count : Nat} {c : Char} {rest tail : List Char}

lemma readTail?_close :
    readTail? bound count ('}' :: rest) = if count ≤ bound then some [] else none := by
  rw [readTail?, if_pos rfl]

/-- A character that a name goes on with is no closing brace and ends no line. -/
lemma readTail?_continue (hc : Key.isContinue c = true) :
    readTail? bound count (c :: rest) =
      if bound < count + 1 then none else (readTail? bound (count + 1) rest).map (c :: ·) := by
  have hne : ∀ d ∈ Key.delimiters, c ≠ d := by
    rintro d hd rfl
    rw [Key.not_isContinue_of_mem_delimiters hd] at hc
    cases hc
  have hclose : c ≠ '}' := hne _ (by decide)
  have hline : ¬ (c = '\n' ∨ c = '\r') := by
    rintro (h | h)
    · exact hne _ (by decide) h
    · exact hne _ (by decide) h
  rw [readTail?, if_neg hclose, if_neg hline, if_pos hc]

lemma readTail?_stop (hclose : c ≠ '}') (hc : Key.isContinue c = false) :
    readTail? bound count (c :: rest) = none := by
  rw [readTail?, if_neg hclose]
  simp [hc]

/-- Reading with a count finds the characters up to the closing brace, if a name goes on with all
of them and if they are, together with those counted before, not more than the bound. -/
theorem readTail?_eq_some_iff {text : List Char} :
    readTail? bound count text = some tail ↔
      (∀ d ∈ tail, Key.isContinue d = true) ∧ count + tail.length ≤ bound ∧
        ∃ rest, text = tail ++ '}' :: rest := by
  -- on the text: the count grows by one with each character that is passed over
  induction text generalizing count tail with
  | nil => simp [readTail?]
  | cons c text ih =>
    by_cases hclose : c = '}'
    · subst hclose
      rw [readTail?_close, Option.ite_none_right_eq_some, Option.some.injEq]
      constructor
      · rintro ⟨hcount, rfl⟩
        exact ⟨by simp, hcount, text, rfl⟩
      · rintro ⟨hall, hcount, rest, htext⟩
        cases tail with
        | nil => exact ⟨hcount, rfl⟩
        | cons d tail =>
          obtain ⟨rfl, -⟩ := List.cons.inj htext
          have hbrace := hall _ List.mem_cons_self
          rw [Key.isContinue_closeBrace] at hbrace
          cases hbrace
    · cases hc : Key.isContinue c with
      | true =>
        rw [readTail?_continue hc, Option.ite_none_left_eq_some, Option.map_eq_some_iff]
        constructor
        · rintro ⟨-, tail, htail, rfl⟩
          obtain ⟨hall, hcount, rest, rfl⟩ := ih.1 htail
          refine ⟨List.forall_mem_cons.2 ⟨hc, hall⟩, ?_, rest, rfl⟩
          rw [List.length_cons]
          omega
        · rintro ⟨hall, hcount, rest, htext⟩
          cases tail with
          | nil => exact absurd (List.cons.inj htext).1 hclose
          | cons d tail =>
            obtain ⟨rfl, hbehind⟩ := List.cons.inj htext
            rw [List.length_cons] at hcount
            refine ⟨by omega, tail, ih.2 ⟨?_, by omega, rest, hbehind⟩, rfl⟩
            exact (List.forall_mem_cons.1 hall).2
      | false =>
        rw [readTail?_stop hclose hc]
        constructor
        · rintro ⟨⟩
        · rintro ⟨hall, -, rest, htext⟩
          cases tail with
          | nil => exact absurd (List.cons.inj htext).1 hclose
          | cons d tail =>
            obtain ⟨rfl, -⟩ := List.cons.inj htext
            rw [hall _ List.mem_cons_self] at hc
            cases hc

/-- A name is read with a count exactly if it is a word within the bound that the text starts with
and a closing brace stands behind it. -/
lemma readName?_eq_some_iff {text name : List Char} :
    readName? bound text = some name ↔
      Key.isWord name = true ∧ name.length ≤ bound ∧ ∃ rest, text = name ++ '}' :: rest := by
  cases text with
  | nil => simp [readName?]
  | cons c text =>
    rw [readName?, Option.ite_none_right_eq_some, Option.map_eq_some_iff]
    simp only [readTail?_eq_some_iff]
    constructor
    · rintro ⟨hstart, tail, ⟨hall, hcount, rest, rfl⟩, rfl⟩
      refine ⟨Key.isWord_cons.2 ⟨hstart, hall⟩, ?_, rest, rfl⟩
      rw [List.length_cons]
      omega
    · rintro ⟨hword, hlen, rest, htext⟩
      cases name with
      | nil => cases hword
      | cons d tail =>
        obtain ⟨rfl, rfl⟩ := List.cons.inj htext
        obtain ⟨hstart, hall⟩ := Key.isWord_cons.1 hword
        rw [List.length_cons] at hlen
        exact ⟨hstart, tail, ⟨hall, by omega, rest, rfl⟩, rfl⟩

/-- Counting and giving up early makes no difference to what is read. -/
theorem readName?_eq_leadingName? (bound : Nat) (text : List Char) :
    readName? bound text = leadingName? bound text := by
  refine Option.ext fun name => ?_
  rw [readName?_eq_some_iff, leadingName?_eq_some_iff]

end Reading

/-! ## Names and keys -/

/-- A text starts with a name within a bound and with a closing brace behind it: the name is not
empty, its first character is one that a name starts with, and the others are characters that it
goes on with. -/
structure StartsWithName (bound : Nat) (text name : List Char) : Prop where
  isName : ∃ c rest, name = c :: rest ∧ Key.isStart c = true ∧
    ∀ d ∈ rest, Key.isContinue d = true
  length_le : name.length ≤ bound
  closed : ∃ rest, text = name ++ '}' :: rest

section Names

variable {bound : Nat} {text name : List Char}

lemma startsWithName_iff :
    StartsWithName bound text name ↔
      Key.isWord name = true ∧ name.length ≤ bound ∧ ∃ rest, text = name ++ '}' :: rest := by
  constructor
  · rintro ⟨⟨c, rest, rfl, hname⟩, hlen, hclosed⟩
    exact ⟨Key.isWord_cons.2 hname, hlen, hclosed⟩
  · rintro ⟨hword, hlen, hclosed⟩
    cases name with
    | nil => cases hword
    | cons c rest => exact ⟨⟨c, rest, rfl, Key.isWord_cons.1 hword⟩, hlen, hclosed⟩

lemma StartsWithName.notMem_delimiters (h : StartsWithName bound text name) :
    ∀ c ∈ name, c ∉ Key.delimiters := by
  intro c hc hdelimiter
  have hcontinue := Key.isContinue_of_mem_isWord (startsWithName_iff.1 h).1 c hc
  rw [Key.not_isContinue_of_mem_delimiters hdelimiter] at hcontinue
  cases hcontinue

/-- A text starts with one name at most, whatever the bounds are: it ends at the first closing
brace. -/
lemma StartsWithName.eq {bound' : Nat} {other : List Char} (h : StartsWithName bound text name)
    (h' : StartsWithName bound' text other) : other = name := by
  obtain ⟨hword, -, rest, htext⟩ := startsWithName_iff.1 h
  obtain ⟨hword', -, rest', rfl⟩ := startsWithName_iff.1 h'
  rw [← takeWhile_isContinue_append (Key.isContinue_of_mem_isWord hword') rest', htext,
    takeWhile_isContinue_append (Key.isContinue_of_mem_isWord hword) rest]

/-- A text is a key exactly if it is read as a name where a closing brace stands behind it. -/
lemma isValid_iff_leadingName? (name : String) (rest : List Char) :
    Key.isValid name = true ↔
      leadingName? Key.maxLength (name.toList ++ '}' :: rest) = some name.toList := by
  rw [Key.isValid, Bool.and_eq_true, decide_eq_true_eq, leadingName?_eq_some_iff,
    String.length_toList]
  constructor
  · rintro ⟨hword, hlen⟩
    exact ⟨hword, hlen, rest, rfl⟩
  · rintro ⟨hword, hlen, -⟩
    exact ⟨hword, hlen⟩

/-- A text can be bound exactly if it is a key. -/
lemma Bindings.exists_insert?_iff (b : Bindings) (key : String) (value : Option String) :
    (∃ next, b.insert? key value = .ok next) ↔ Key.isValid key = true := by
  cases hvalid : Key.isValid key with
  | true => simp [insert?_of_isValid hvalid]
  | false => simp [insert?_of_not_isValid hvalid]

lemma Style.defaultBound_le (style : Style) : style.defaultBound ≤ Key.maxLength := by
  cases style <;> decide

/-- What the scan finds within the bound of a style is a key. -/
lemma Placeholder.isValid_of_mem_scan {style : Style} {pattern : String} {p : Placeholder}
    (hp : p ∈ scan style.defaultBound pattern) : Key.isValid p.name = true := by
  obtain ⟨before, name, after, -, hword, hlen, rfl⟩ := mem_scan_iff.1 hp
  have hbound := hlen.trans style.defaultBound_le
  simp [Key.isValid, hword, hbound]

/-- **Reading a name is exact.**  A text is read as far as the closing brace behind the name that
it starts with, if there is such a name within the bound, and else nothing is read.  There is one
such name at most, and it holds neither a brace nor the end of a line.  It makes no difference
whether the characters are counted one by one.  Therefore the keys are the names that can be read
with the greatest length of a key as the bound, whatever stands behind the brace: what can be bound
can be read, and what a scan finds within the bound of its style can be bound. -/
theorem leadingName?_exact :
    (∀ (bound : Nat) (text name : List Char),
      (leadingName? bound text = some name ↔ StartsWithName bound text name) ∧
        (readName? bound text = some name ↔ StartsWithName bound text name)) ∧
    (∀ (bound : Nat) (text name : List Char), StartsWithName bound text name →
      (∀ c ∈ name, c ∉ Key.delimiters) ∧
        ∀ bound' other, StartsWithName bound' text other → other = name) ∧
    (∀ (name : String) (rest : List Char), Key.isValid name = true ↔
      leadingName? Key.maxLength (name.toList ++ '}' :: rest) = some name.toList) ∧
    (∀ (b : Bindings) (key : String) (value : Option String) (rest : List Char),
      (∃ next, b.insert? key value = .ok next) ↔
        leadingName? Key.maxLength (key.toList ++ '}' :: rest) = some key.toList) ∧
    ∀ (style : Style) (pattern : String), ∀ p ∈ Placeholder.scan style.defaultBound pattern,
      ∀ (b : Bindings) (value : Option String), ∃ next, b.insert? p.name value = .ok next := by
  refine ⟨fun bound text name => ⟨?_, ?_⟩, fun bound text name h => ⟨h.notMem_delimiters, ?_⟩,
    isValid_iff_leadingName?, fun b key value rest => ?_, fun style pattern p hp b value => ?_⟩
  · rw [leadingName?_eq_some_iff, startsWithName_iff]
  · rw [readName?_eq_leadingName?, leadingName?_eq_some_iff, startsWithName_iff]
  · exact fun bound' other h' => h.eq h'
  · rw [b.exists_insert?_iff, isValid_iff_leadingName?]
  · exact (b.exists_insert?_iff p.name value).2 (Placeholder.isValid_of_mem_scan hp)

/-- A name of three characters, one of them of two bytes, is within a bound of three and not within
one of two, and the second brace behind it belongs to the rest. -/
theorem leadingName?_exact_bounds :
    let text := "Öl2\x7d\x7d".toList
    StartsWithName 3 text "Öl2".toList ∧ leadingName? 3 text = some "Öl2".toList ∧
      readName? 3 text = some "Öl2".toList ∧ (∀ name, leadingName? 2 text ≠ some name) ∧
      (∀ bound other, StartsWithName bound text other → other = "Öl2".toList) ∧
      Key.isValid "Öl2" = true ∧ ∃ next, Bindings.empty.insert? "Öl2" none = .ok next := by
  intro text
  obtain ⟨hread, hname, hvalid, hbind, -⟩ := leadingName?_exact
  have hstarts : StartsWithName 3 text "Öl2".toList := by
    refine startsWithName_iff.2 ⟨by decide +kernel, by decide, ['\x7d'], by decide⟩
  have hunique := (hname 3 text _ hstarts).2
  have hkey :
      leadingName? Key.maxLength ("Öl2".toList ++ ['\x7d', '\x7d']) = some "Öl2".toList := by
    decide +kernel
  refine ⟨hstarts, (hread 3 text _).1.2 hstarts, (hread 3 text _).2.2 hstarts, fun name h => ?_,
    hunique, (hvalid "Öl2" _).2 hkey, (hbind .empty "Öl2" none _).2 hkey⟩
  have hshort := (hread 2 text name).1.1 h
  have hlen := hshort.length_le
  rw [hunique 2 name hshort] at hlen
  exact absurd hlen (by decide)

end Names

end Stencil
