import Mathlib.Data.List.TakeWhile
import Mathlib.Tactic.Lemma
import Stencil.Pattern.Placeholder

/-!
# The names of placeholders

What may stand between the braces of a placeholder is a word: a letter, then characters that a
key may go on with.  A word holds no brace.  Therefore the first closing brace behind the start
of a word ends it, a text starts with at most one name, and a key at the start of a text is found
by reading a name as well as by comparing the key.

The main results are

* `Key.bounds_of_isValid`: what a key cannot be and what it cannot hold;
* `leadingName?_eq_some_iff`: the names that reading accepts;
* `token?_eq_some_iff`: the placeholders that a text can start with.
-/

namespace Stencil

namespace Key

lemma isContinue_openBrace : isContinue '{' = false := by decide +kernel

lemma isContinue_closeBrace : isContinue '}' = false := by decide +kernel

lemma isWord_cons {c : Char} {cs : List Char} :
    isWord (c :: cs) = true ↔ isStart c = true ∧ ∀ d ∈ cs, isContinue d = true := by
  rw [isWord, Bool.and_eq_true, List.all_eq_true]

/-- A character that a word may start with is one that it may go on with. -/
lemma isContinue_of_isStart {c : Char} (h : isStart c = true) : isContinue c = true := by
  rw [isStart] at h
  rw [isContinue, Text.isAlphanumeric, h, Bool.true_or, Bool.true_or]

lemma isContinue_of_mem_isWord {name : List Char} (h : isWord name = true) :
    ∀ c ∈ name, isContinue c = true := by
  cases name with
  | nil => simp
  | cons c cs =>
    obtain ⟨hc, hcs⟩ := isWord_cons.1 h
    exact List.forall_mem_cons.2 ⟨isContinue_of_isStart hc, hcs⟩

/-- No character of a word is an opening brace. -/
lemma ne_openBrace_of_isWord {name : List Char} (h : isWord name = true) :
    ∀ c ∈ name, c ≠ '{' := by
  rintro c hc rfl
  have hcontinue := isContinue_of_mem_isWord h _ hc
  rw [isContinue_openBrace] at hcontinue
  cases hcontinue

lemma isWord_chars (key : Key) : isWord key.chars = true := by
  have h := key.valid
  rw [isValid, Bool.and_eq_true] at h
  exact h.1

lemma ofList_chars (key : Key) : String.ofList key.chars = key.text := String.ofList_toList

/-! ## Texts that are keys -/

/-- The braces, and the characters that end a line. -/
def delimiters : List Char :=
  '{' :: '}' :: [0x0a, 0x0b, 0x0c, 0x0d, 0x85, 0x2028, 0x2029].map Char.ofNat

lemma not_isContinue_of_mem_delimiters {c : Char} (h : c ∈ delimiters) :
    isContinue c = false := by
  have hall : delimiters.all (fun c => !isContinue c) = true := by decide +kernel
  simpa using List.all_eq_true.1 hall c h

lemma ofString?_of_isValid {text : String} (h : isValid text = true) :
    ofString? text = some ⟨text, h⟩ :=
  ofString?_eq_some_iff.2 rfl

lemma ofString?_of_not_isValid {text : String} (h : isValid text = false) :
    ofString? text = none := by
  rw [ofString?, dif_neg (by simp [h])]

/-- A key is not empty and not too long, and it holds no delimiter. -/
lemma bounds_of_isValid {text : String} (h : isValid text = true) :
    text ≠ "" ∧ text.length ≤ maxLength ∧ ∀ c ∈ text.toList, c ∉ delimiters := by
  rw [isValid, Bool.and_eq_true, decide_eq_true_eq] at h
  refine ⟨?_, h.2, fun c hc hdelimiter => ?_⟩
  · rintro rfl
    exact absurd h.1 (by decide)
  · have hcontinue := isContinue_of_mem_isWord h.1 c hc
    rw [not_isContinue_of_mem_delimiters hdelimiter] at hcontinue
    cases hcontinue

end Key

/-! ## Reading a name -/

lemma takeWhile_isContinue_append {cs : List Char} (h : ∀ c ∈ cs, Key.isContinue c = true)
    (rest : List Char) : (cs ++ '}' :: rest).takeWhile Key.isContinue = cs := by
  rw [List.takeWhile_append_of_pos h, List.takeWhile_cons_of_neg, List.append_nil]
  simp [Key.isContinue_closeBrace]

lemma dropWhile_isContinue_append {cs : List Char} (h : ∀ c ∈ cs, Key.isContinue c = true)
    (rest : List Char) : (cs ++ '}' :: rest).dropWhile Key.isContinue = '}' :: rest := by
  rw [List.dropWhile_append_of_pos h, List.dropWhile_cons_of_neg]
  simp [Key.isContinue_closeBrace]

/-- A name is read exactly if the text starts with it and a closing brace behind it, it is a
word, and it is within the bound. -/
theorem leadingName?_eq_some_iff {bound : Nat} {text name : List Char} :
    leadingName? bound text = some name ↔
      Key.isWord name = true ∧ name.length ≤ bound ∧ ∃ rest, text = name ++ '}' :: rest := by
  constructor
  · intro h
    cases text with
    | nil => cases h
    | cons c cs =>
      simp only [leadingName?, Option.ite_none_right_eq_some, Bool.and_eq_true, beq_iff_eq,
        decide_eq_true_eq, Option.some.injEq] at h
      obtain ⟨⟨⟨hstart, hclose⟩, hlen⟩, rfl⟩ := h
      obtain ⟨rest, hrest⟩ := List.head?_eq_some_iff.1 hclose
      refine ⟨Key.isWord_cons.2 ⟨hstart, fun d hd => List.mem_takeWhile_imp hd⟩, hlen, rest, ?_⟩
      rw [List.cons_append, ← hrest, List.takeWhile_append_dropWhile]
  · rintro ⟨hword, hlen, rest, rfl⟩
    cases name with
    | nil => cases hword
    | cons c cs =>
      obtain ⟨hstart, hcs⟩ := Key.isWord_cons.1 hword
      simp only [List.cons_append, leadingName?, takeWhile_isContinue_append hcs,
        dropWhile_isContinue_append hcs]
      simp only [hstart, hlen, List.head?_cons, beq_self_eq_true, decide_true, Bool.and_self,
        if_true]

/-- A text starts with a placeholder exactly if it starts with a name between braces. -/
theorem token?_eq_some_iff {bound : Nat} {text name : List Char} :
    token? bound text = some name ↔
      Key.isWord name = true ∧ name.length ≤ bound ∧ ∃ rest, text = '{' :: name ++ '}' :: rest := by
  cases text with
  | nil => simp [token?]
  | cons c cs =>
    by_cases hc : c = '{'
    · simp only [token?, hc, if_true, leadingName?_eq_some_iff, List.cons_append, List.cons.injEq,
        true_and]
    · simp [token?, hc]

/-- A name between braces is a placeholder, whatever comes behind it. -/
lemma token?_name {bound : Nat} {name : List Char} (hword : Key.isWord name = true)
    (hlen : name.length ≤ bound) (rest : List Char) :
    token? bound ('{' :: name ++ '}' :: rest) = some name :=
  token?_eq_some_iff.2 ⟨hword, hlen, rest, rfl⟩

lemma suffix_token (name rest : List Char) : rest <:+ '{' :: name ++ '}' :: rest :=
  ⟨'{' :: name ++ ['}'], by simp⟩

end Stencil
