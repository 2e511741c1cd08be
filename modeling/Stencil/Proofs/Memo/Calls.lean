import Mathlib.Data.Finset.Card
import Mathlib.Data.List.DropRight
import Mathlib.Tactic.Lemma
import Stencil.Memo
import Stencil.Proofs.Table.Contents

/-!
# Calls on a memo

A memo is asked for the values of keys, and now and then it is emptied.  After any sequence of such
calls it holds, under each key that has been asked for since it was last emptied, what the first of
these calls derives, and nothing else.  All that a further call gives can be read off from this.

The main results are

* `Memo.get?_afterAll`: what a memo holds after a sequence of calls;
* `Memo.value_fetch_afterAll`, `Memo.derived_fetch_afterAll`: what the next call gives;
* `Memo.size_afterAll`: how much a memo holds.
-/

namespace Stencil.Memo

variable {κ υ : Type}

/-- A call on a memo. -/
inductive Call (κ υ : Type) where
  /-- Asks for the value of a key; each call has its own way to derive it. -/
  | fetch (key : κ) (derive : Unit → υ)
  /-- Empties the memo. -/
  | clear

/-- Whether a call empties the memo. -/
def Call.isClear : Call κ υ → Bool
  | fetch _ _ => false
  | clear => true

/-- The key that a call asks for, and how it would derive the value. -/
def Call.request? : Call κ υ → Option (κ × (Unit → υ))
  | fetch key derive => some (key, derive)
  | clear => none

/-- The keys asked for since the last call that empties the memo, with how each of the calls would
derive the value. -/
def recent (calls : List (Call κ υ)) : List (κ × (Unit → υ)) :=
  (calls.rtakeWhile fun call => !call.isClear).filterMap Call.request?

@[simp] lemma recent_concat_fetch (calls : List (Call κ υ)) (key : κ) (derive : Unit → υ) :
    recent (calls ++ [.fetch key derive]) = recent calls ++ [(key, derive)] := by
  rw [recent, List.rtakeWhile_concat_pos _ _ _ rfl, List.filterMap_append]
  rfl

@[simp] lemma recent_concat_clear (calls : List (Call κ υ)) : recent (calls ++ [.clear]) = [] := by
  rw [recent, List.rtakeWhile_concat_neg _ _ _ Bool.false_ne_true]
  rfl

variable [DecidableEq κ]

/-- A memo after a call. -/
def after (memo : Memo κ υ) : Call κ υ → Memo κ υ
  | .fetch key derive => (fetch memo key derive).memo
  | .clear => Table.empty

/-- A memo that is empty at first, after a sequence of calls. -/
def afterAll (calls : List (Call κ υ)) : Memo κ υ := calls.foldl after Table.empty

lemma afterAll_concat (calls : List (Call κ υ)) (call : Call κ υ) :
    afterAll (calls ++ [call]) = after (afterAll calls) call :=
  List.foldl_concat ..

lemma value_fetch (memo : Memo κ υ) (key : κ) (derive : Unit → υ) :
    (fetch memo key derive).value = (memo.get? key).getD (derive ()) := by
  unfold fetch
  cases memo.get? key <;> rfl

lemma derived_fetch (memo : Memo κ υ) (key : κ) (derive : Unit → υ) :
    (fetch memo key derive).derived = (memo.get? key).isNone := by
  unfold fetch
  cases memo.get? key <;> rfl

/-- Asking never replaces a value: it adds one where there is none. -/
lemma get?_memo_fetch (memo : Memo κ υ) (key k : κ) (derive : Unit → υ) :
    (fetch memo key derive).memo.get? k =
      (memo.get? k).or (if key = k then some (derive ()) else none) := by
  unfold fetch
  by_cases hkey : key = k
  · subst hkey
    cases h : memo.get? key with
    | none => simp [Table.get?_put]
    | some value => simp [h]
  · cases h : memo.get? key with
    | none => simp [Table.get?_put, hkey, Ne.symm hkey]
    | some value => simp [hkey]

variable (calls : List (Call κ υ))

/-- Under each key, a memo holds what the first call for it since the memo was last emptied
derives. -/
theorem get?_afterAll (key : κ) :
    (afterAll calls).get? key =
      (Table.lookup? key (recent calls)).map fun derive => derive () := by
  -- on the calls up to the last one: it is the only one that can change what they left
  induction calls using List.reverseRecOn with
  | nil => rfl
  | append_singleton calls call ih =>
    rw [afterAll_concat]
    cases call with
    | clear => rw [recent_concat_clear]; rfl
    | fetch k derive =>
      rw [recent_concat_fetch, Table.lookup?_append, after, get?_memo_fetch, ih, Option.map_or]
      by_cases hkey : k = key
      · simp [Table.lookup?, hkey]
      · simp [Table.lookup?, hkey]

/-- A call gives what the first call for its key derives, which it may be itself. -/
theorem value_fetch_afterAll (key : κ) (derive : Unit → υ) :
    (fetch (afterAll calls) key derive).value =
      (Table.lookup? key (recent calls)).getD derive () := by
  rw [value_fetch, get?_afterAll]
  cases Table.lookup? key (recent calls) <;> rfl

/-- A call derives a value exactly if it is the first one for its key. -/
theorem derived_fetch_afterAll (key : κ) (derive : Unit → υ) :
    (fetch (afterAll calls) key derive).derived = true ↔
      key ∉ (recent calls).map Prod.fst := by
  rw [derived_fetch, get?_afterAll, Option.isNone_map, Option.isNone_iff_eq_none,
    Table.lookup?_eq_none_iff]

/-- A memo holds as many values as distinct keys have been asked for. -/
theorem size_afterAll :
    (afterAll calls).size = ((recent calls).map Prod.fst).toFinset.card := by
  have hkeys : (afterAll calls).keys.toFinset = ((recent calls).map Prod.fst).toFinset := by
    ext key
    rw [List.mem_toFinset, List.mem_toFinset, Table.mem_keys_iff, get?_afterAll, Option.isSome_map,
      ← Option.ne_none_iff_isSome, ne_eq, Table.lookup?_eq_none_iff, not_not]
  have hnodup : (afterAll calls).keys.Nodup := (afterAll calls).nodup
  rw [← hkeys, List.toFinset_card_of_nodup hnodup, Table.keys, List.length_map, Table.size]

end Stencil.Memo
