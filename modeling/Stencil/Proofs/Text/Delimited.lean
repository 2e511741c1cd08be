import Mathlib
import Stencil.Text.Quoted

/-!
# Texts that can be taken apart again

Generated text is made by writing one thing behind another.  What was written can be found in it
if each writing tells where it ends: by a stop that does not occur in it, or by its own form.  Such
writings can be put in a row and can be nested in others.

The main results are

* `Text.StopsAt.eq_of_join_mapIdx_eq`: two rows of numbered texts with different stops, read
  together, tell the texts apart whatever they are;
* `Text.SelfDelimiting.flatMap_stop`: a row of self-delimiting writings up to a stop is one itself;
* `Text.selfDelimiting_quote`: quoted text delimits itself, whatever characters it quotes;
* `Text.toString_int64_injective`: numbers are told apart by their digits.
-/

namespace Stencil.Text

variable {α : Type}

/-- What is written for the elements of a set tells for which element it was written and where it
ends, whatever stands behind it. -/
def SelfDelimiting (s : Set α) (write : α → List Char) : Prop :=
  ∀ ⦃x⦄, x ∈ s → ∀ ⦃y⦄, y ∈ s → ∀ ⦃rest rest'⦄,
    write x ++ rest = write y ++ rest' → x = y ∧ rest = rest'

/-! ## Stops -/

section Stops

variable {stop stop' : Char} {xs ys rest rest' others others' : List Char}

/-- A text is cut in one way only at the first occurrence of a stop. -/
lemma eq_of_append_stop (hxs : stop ∉ xs) (hys : stop ∉ ys)
    (h : xs ++ stop :: rest = ys ++ stop :: rest') : xs = ys ∧ rest = rest' := by
  induction xs generalizing ys with
  | nil =>
    cases ys with
    | nil => exact ⟨rfl, (List.cons.inj h).2⟩
    | cons y ys => exact absurd ((List.cons.inj h).1 ▸ List.mem_cons_self) hys
  | cons x xs ih =>
    cases ys with
    | nil => exact absurd ((List.cons.inj h).1 ▸ List.mem_cons_self) hxs
    | cons y ys =>
      obtain ⟨rfl, htail⟩ := List.cons.inj h
      obtain ⟨rfl, hrest⟩ := ih (List.not_mem_of_not_mem_cons hxs)
        (List.not_mem_of_not_mem_cons hys) htail
      exact ⟨rfl, hrest⟩

/-- Two texts in front of a stop in one place and in front of another stop in another place are
equal, even if the stops occur in them: the shorter one ends where the longer one would have to
have both stops. -/
lemma eq_of_append_stops (hne : stop ≠ stop') (h : xs ++ stop :: rest = ys ++ stop :: rest')
    (h' : xs ++ stop' :: others = ys ++ stop' :: others') : xs = ys := by
  induction xs generalizing ys with
  | nil =>
    cases ys with
    | nil => rfl
    | cons y ys => exact absurd ((List.cons.inj h).1.trans (List.cons.inj h').1.symm) hne
  | cons x xs ih =>
    cases ys with
    | nil => exact absurd ((List.cons.inj h).1.symm.trans (List.cons.inj h').1) hne
    | cons y ys =>
      obtain ⟨rfl, htail⟩ := List.cons.inj h
      rw [ih htail (List.cons.inj h').2]

/-- A text is cut in one way only at the last occurrence of a stop. -/
lemma eq_of_stop_append (hxs : stop ∉ xs) (hys : stop ∉ ys)
    (h : rest ++ stop :: xs = rest' ++ stop :: ys) : rest = rest' ∧ xs = ys := by
  have hrev := congrArg List.reverse h
  simp only [List.reverse_append, List.reverse_cons, List.append_assoc, List.singleton_append]
    at hrev
  obtain ⟨hxy, hrest⟩ := eq_of_append_stop (fun hmem => hxs (List.mem_reverse.1 hmem))
    (fun hmem => hys (List.mem_reverse.1 hmem)) hrev
  exact ⟨List.reverse_inj.1 hrest, List.reverse_inj.1 hxy⟩

end Stops

/-! ## Rows of numbered texts -/

/-- A text is written behind a fixed start and with a stop right behind it. -/
def StopsAt (stop : Char) (write : String → String) : Prop :=
  ∃ start, ∀ text, ∃ rest, (write text).toList = start ++ (text.toList ++ stop :: rest)

namespace StopsAt

variable {stop stop' : Char} {write write' : String → String} {text other : String}

lemma ne_empty (h : StopsAt stop write) (text : String) : write text ≠ "" := by
  obtain ⟨start, hstart⟩ := h
  obtain ⟨rest, hrest⟩ := hstart text
  intro hempty
  rw [hempty] at hrest
  simp at hrest

/-- Behind the fixed start, equal writings go on with the texts and the stop. -/
lemma exists_append_stop_eq (h : StopsAt stop write) {behind behind' : String}
    (heq : write text ++ behind = write other ++ behind') :
    ∃ rest rest', text.toList ++ stop :: rest = other.toList ++ stop :: rest' := by
  obtain ⟨start, hstart⟩ := h
  obtain ⟨rest, hrest⟩ := hstart text
  obtain ⟨rest', hrest'⟩ := hstart other
  have hlists := congrArg String.toList heq
  simp only [String.toList_append, hrest, hrest', List.append_assoc, List.cons_append] at hlists
  exact ⟨_, _, List.append_cancel_left hlists⟩

lemma eq_of_append_eq (hne : stop ≠ stop') (h : StopsAt stop write) (h' : StopsAt stop' write')
    {behind behind' after after' : String} (heq : write text ++ behind = write other ++ behind')
    (heq' : write' text ++ after = write' other ++ after') : text = other := by
  obtain ⟨_, _, hstop⟩ := h.exists_append_stop_eq heq
  obtain ⟨_, _, hstop'⟩ := h'.exists_append_stop_eq heq'
  exact String.toList_inj.1 (eq_of_append_stops hne hstop hstop')

/-- Texts that are written in two rows, with different stops in them, are told apart by the two
rows together, even if the stops occur in the texts. -/
theorem eq_of_join_mapIdx_eq (hne : stop ≠ stop') {writes writes' : Nat → String → String}
    (h : ∀ i, StopsAt stop (writes i)) (h' : ∀ i, StopsAt stop' (writes' i))
    {texts others : List String}
    (heq : String.join (texts.mapIdx writes) = String.join (others.mapIdx writes))
    (heq' : String.join (texts.mapIdx writes') = String.join (others.mapIdx writes')) :
    texts = others := by
  -- behind the first text the numbers are one higher
  induction texts generalizing others writes writes' with
  | nil =>
    cases others with
    | nil => rfl
    | cons other others =>
      rw [List.mapIdx_nil, List.mapIdx_cons, String.join_nil, String.join_cons, eq_comm,
        String.append_eq_empty_iff] at heq
      exact absurd heq.1 ((h 0).ne_empty other)
  | cons text texts ih =>
    cases others with
    | nil =>
      rw [List.mapIdx_nil, List.mapIdx_cons, String.join_nil, String.join_cons,
        String.append_eq_empty_iff] at heq
      exact absurd heq.1 ((h 0).ne_empty text)
    | cons other others =>
      simp only [List.mapIdx_cons, String.join_cons] at heq heq'
      obtain rfl : text = other := (h 0).eq_of_append_eq hne (h' 0) heq heq'
      have htail : texts = others := ih (fun i => h (i + 1)) (fun i => h' (i + 1))
        ((String.append_right_inj _).1 heq) ((String.append_right_inj _).1 heq')
      rw [htail]

end StopsAt

/-! ## Rows -/

namespace SelfDelimiting

variable {s : Set α} {write : α → List Char}

/-- A row of writings delimits itself if a stop ends it that none of them starts with. -/
theorem flatMap_stop (h : SelfDelimiting s write) {stop : Char}
    (hstop : ∀ x ∈ s, ∃ c cs, write x = c :: cs ∧ c ≠ stop) :
    SelfDelimiting {l : List α | ∀ x ∈ l, x ∈ s} fun l => l.flatMap write ++ [stop] := by
  -- where one row has ended, the other one cannot go on
  have hend : ∀ x ∈ s, ∀ rest rest' : List Char, stop :: rest ≠ write x ++ rest' := by
    intro x hx rest rest' heq
    obtain ⟨c, cs, hwrite, hc⟩ := hstop x hx
    rw [hwrite, List.cons_append] at heq
    exact hc (List.cons.inj heq).1.symm
  intro l hl
  induction l with
  | nil =>
    intro m hm rest rest' heq
    cases m with
    | nil => exact ⟨rfl, (List.cons.inj heq).2⟩
    | cons y m =>
      simp only [List.flatMap_cons, List.append_assoc] at heq
      exact absurd heq (hend y (hm y List.mem_cons_self) _ _)
  | cons x l ih =>
    intro m hm rest rest' heq
    have hx : x ∈ s := hl x List.mem_cons_self
    cases m with
    | nil =>
      simp only [List.flatMap_cons, List.append_assoc] at heq
      exact absurd heq.symm (hend x hx _ _)
    | cons y m =>
      simp only [List.flatMap_cons, List.append_assoc] at heq
      obtain ⟨rfl, htail⟩ := h hx (hm y List.mem_cons_self) heq
      have hl' : ∀ z ∈ l, z ∈ s := fun z hz => hl z (List.mem_cons_of_mem x hz)
      have hm' : ∀ z ∈ m, z ∈ s := fun z hz => hm z (List.mem_cons_of_mem x hz)
      rw [← List.append_assoc, ← List.append_assoc (m.flatMap write)] at htail
      obtain ⟨rfl, hrest⟩ := ih hl' hm' htail
      exact ⟨rfl, hrest⟩

/-- Rows that reach to the end of the text are told apart as well. -/
theorem flatMap_injOn (h : SelfDelimiting s write) {stop : Char}
    (hstop : ∀ x ∈ s, ∃ c cs, write x = c :: cs ∧ c ≠ stop) :
    Set.InjOn (fun l => l.flatMap write) {l : List α | ∀ x ∈ l, x ∈ s} := by
  intro l hl m hm heq
  have heq' : l.flatMap write ++ [stop] ++ [] = m.flatMap write ++ [stop] ++ [] := by
    rw [show l.flatMap write = m.flatMap write from heq]
  exact (flatMap_stop h hstop hl hm heq').1

end SelfDelimiting

/-! ## Numbers -/

/-- Numbers with the same digits in base sixteen are equal. -/
lemma hex_injective : Function.Injective hex := by
  have hdigit : ∀ a < 16, ∀ b < 16, Nat.digitChar a = Nat.digitChar b → a = b := by decide
  have hunfold : ∀ k, hex k =
      if k < 16 then [k.digitChar] else hex (k / 16) ++ [(k % 16).digitChar] :=
    fun k => Nat.toDigits_eq_if (by omega)
  have hne : ∀ k, hex k ≠ [] := fun k => Nat.toDigits_ne_nil
  intro m n h
  induction m using Nat.strong_induction_on generalizing n with
  | h m ih =>
    rw [hunfold m, hunfold n] at h
    -- what is written for one digit is shorter than what is written for several
    by_cases hm : m < 16 <;> by_cases hn : n < 16
    · rw [if_pos hm, if_pos hn] at h
      exact hdigit m hm n hn (List.cons.inj h).1
    · rw [if_pos hm, if_neg hn] at h
      exact absurd (List.append_eq_singleton_iff.1 h.symm) (by simp [hne])
    · rw [if_neg hm, if_pos hn] at h
      exact absurd (List.append_eq_singleton_iff.1 h) (by simp [hne])
    · rw [if_neg hm, if_neg hn, List.append_singleton_inj] at h
      have hhigh : m / 16 = n / 16 := ih (m / 16) (by omega) h.1
      have hlow : m % 16 = n % 16 :=
        hdigit _ (Nat.mod_lt m (by omega)) _ (Nat.mod_lt n (by omega)) h.2
      omega

lemma closeBrace_notMem_hex (n : Nat) : '}' ∉ hex n := by
  induction n using Nat.strong_induction_on with
  | h n ih =>
    have hdigit : ∀ k : Nat, '}' ≠ k.digitChar := fun k => (Nat.digitChar_ne '}' (by decide)).symm
    rw [hex, Nat.toDigits_eq_if (by omega)]
    split
    · rw [List.mem_singleton]
      exact hdigit n
    · rw [List.mem_append, List.mem_singleton, not_or]
      exact ⟨ih (n / 16) (by omega), hdigit (n % 16)⟩

lemma isDigit_of_mem_toString {n : Nat} {c : Char} (h : c ∈ (toString n).toList) :
    c.isDigit = true := by
  rw [show toString n = n.repr from rfl, Nat.repr_eq_ofList_toDigits, String.toList_ofList] at h
  exact Nat.isDigit_of_mem_toDigits (by omega) (by omega) h

/-- Words of 64 bits with a sign are told apart by what is written for them. -/
lemma toString_int64_injective : Function.Injective fun i : Int64 => (toString i).toList := by
  intro i j h
  exact Int64.toInt_inj.1 (Int.repr_injective (String.toList_inj.1 h))

lemma mem_toString_int64 {i : Int64} {c : Char} (h : c ∈ (toString i).toList) :
    c = '-' ∨ c.isDigit = true := by
  rw [show toString i = i.toInt.repr from rfl, Int.repr_eq_if] at h
  split at h
  · exact Or.inr (isDigit_of_mem_toString h)
  · rw [String.toList_append, List.mem_append] at h
    rcases h with hsign | hdigits
    · exact Or.inl (List.mem_singleton.1 hsign)
    · exact Or.inr (isDigit_of_mem_toString hdigits)

/-! ## Quoted text -/

/-- The characters that are written as a backslash and one more character, and that character. -/
def shortEscapes : List (Char × Char) :=
  [('"', '"'), ('\\', '\\'), ('\x00', '0'), ('\t', 't'), ('\n', 'n'), ('\r', 'r')]

/-- The three ways in which a character is written in a quoted text. -/
lemma escape_cases (c : Char) :
    (∃ d, (c, d) ∈ shortEscapes ∧ escape c = ['\\', d]) ∨
      escape c = '\\' :: 'u' :: '\x7b' :: (hex c.toNat ++ ['\x7d']) ∨
      (escape c = [c] ∧ c ≠ '\\' ∧ c ≠ '"') := by
  by_cases hmem : c ∈ shortEscapes.map Prod.fst
  · have hshort : ∀ p ∈ shortEscapes, escape p.1 = ['\\', p.2] := by decide
    obtain ⟨p, hp, rfl⟩ := List.mem_map.1 hmem
    exact Or.inl ⟨p.2, hp, hshort p hp⟩
  · simp only [shortEscapes, List.map_cons, List.map_nil, List.mem_cons, List.not_mem_nil,
      or_false, not_or] at hmem
    obtain ⟨hquote, hslash, hnull, htab, hline, hreturn⟩ := hmem
    simp only [escape, if_neg hquote, if_neg hslash, if_neg hnull, if_neg htab, if_neg hline,
      if_neg hreturn]
    by_cases hshape : isUnprintable c = true
    · rw [if_pos hshape]
      exact Or.inr (Or.inl rfl)
    · rw [if_neg hshape]
      exact Or.inr (Or.inr ⟨rfl, hslash, hquote⟩)

lemma selfDelimiting_escape : SelfDelimiting Set.univ escape := by
  have hshort : ∀ p ∈ shortEscapes, ∀ q ∈ shortEscapes, p.2 = q.2 → p.1 = q.1 := by decide
  have hlong : ∀ p ∈ shortEscapes, p.2 ≠ 'u' := by decide
  rintro x - y - rest rest' h
  rcases escape_cases x with ⟨d, hd, hx⟩ | hx | ⟨hx, hslash, -⟩ <;>
    rcases escape_cases y with ⟨e, he, hy⟩ | hy | ⟨hy, hslash', -⟩ <;>
    rw [hx, hy] at h <;> simp only [List.cons_append, List.nil_append, List.cons.injEq] at h
  -- three cases for each way of writing the first character; two ways differ in one of the first
  -- two characters written
  · exact ⟨hshort _ hd _ he h.2.1, h.2.2⟩
  · exact absurd h.2.1 (hlong _ hd)
  · exact absurd h.1.symm hslash'
  · exact absurd h.2.1.symm (hlong _ he)
  · obtain ⟨-, -, -, htail⟩ := h
    rw [List.append_assoc, List.append_assoc] at htail
    obtain ⟨hdigits, hrest⟩ := eq_of_append_stop (closeBrace_notMem_hex _)
      (closeBrace_notMem_hex _) htail
    exact ⟨Char.toNat_inj.1 (hex_injective hdigits), hrest⟩
  · exact absurd h.1.symm hslash'
  · exact absurd h.1 hslash
  · exact absurd h.1 hslash
  · exact h

lemma escape_ne_quote (c : Char) : ∃ d ds, escape c = d :: ds ∧ d ≠ '"' := by
  rcases escape_cases c with ⟨d, -, hc⟩ | hc | ⟨hc, -, hquote⟩
  · exact ⟨_, _, hc, by decide⟩
  · exact ⟨_, _, hc, by decide⟩
  · exact ⟨c, [], hc, hquote⟩

/-- Quoted text ends at its second quote, and tells all that stands between. -/
theorem selfDelimiting_quote : SelfDelimiting Set.univ fun text => (quote text).toList := by
  rintro s - t - rest rest' h
  simp only [quote, String.toList_ofList, List.cons_append, List.cons.injEq, true_and] at h
  have hrow := selfDelimiting_escape.flatMap_stop fun c _ => escape_ne_quote c
  obtain ⟨htext, hrest⟩ := hrow (fun _ _ => trivial) (fun _ _ => trivial) h
  exact ⟨String.toList_inj.1 htext, hrest⟩

end Stencil.Text
