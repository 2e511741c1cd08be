import Mathlib.Data.List.Nodup
import Mathlib.Data.List.Perm.Subperm
import Mathlib.Tactic.Lemma
import Stencil.Table

/-!
# The contents of tables

A table is known by its look-ups: they determine its entries up to their order.  To compare two
tables it is enough to compare their sizes and to look the entries of one up in the other.

The main results are

* `Table.lookup?_reverse_eq_some_iff`: the last of several pairs under one key;
* `Table.perm_entries_iff`: tables with the same look-ups have the same entries, and conversely;
* `Table.get?_eq_of_size_eq`: a one-sided comparison of tables of one size;
* `Table.perm_cons_restrict`: an entry, and the table of all others;
* `Table.entries_putAll_empty`: writing pairs with distinct keys gives a table of these pairs.
-/

namespace Stencil.Table

variable {κ υ : Type}

lemma nodup_entries (t : Table κ υ) : t.entries.Nodup := t.nodup.of_map

/-- A value is the last one that is listed under a key. -/
def IsLast (key : κ) (value : υ) (es : List (κ × υ)) : Prop :=
  ∃ earlier later, es = earlier ++ (key, value) :: later ∧ key ∉ later.map Prod.fst

/-- Where no key is listed twice, every value is the last one under its key. -/
lemma isLast_iff_mem {key : κ} {value : υ} {es : List (κ × υ)} (h : (es.map Prod.fst).Nodup) :
    IsLast key value es ↔ (key, value) ∈ es := by
  constructor
  · rintro ⟨earlier, later, rfl, -⟩
    exact List.mem_append_right _ List.mem_cons_self
  · intro hmem
    obtain ⟨earlier, later, rfl⟩ := List.append_of_mem hmem
    rw [List.map_append, List.map_cons] at h
    exact ⟨earlier, later, rfl, (List.nodup_cons.1 (List.nodup_append.1 h).2.1).1⟩

variable [DecidableEq κ] {s t : Table κ υ}

lemma lookup?_eq_none_iff {key : κ} {es : List (κ × υ)} :
    lookup? key es = none ↔ key ∉ es.map Prod.fst := by
  induction es with
  | nil => simp [lookup?]
  | cons e es ih =>
    by_cases hkey : e.1 = key
    · simp [lookup?, hkey]
    · simp [lookup?, hkey, Ne.symm hkey, ih]

lemma lookup?_append (key : κ) (es fs : List (κ × υ)) :
    lookup? key (es ++ fs) = (lookup? key es).or (lookup? key fs) := by
  induction es with
  | nil => rfl
  | cons e es ih =>
    by_cases hkey : e.1 = key
    · simp [lookup?, hkey]
    · simp [lookup?, hkey, ih]

/-- A look-up finds the value that no pair under the same key stands in front of. -/
lemma lookup?_eq_some_iff_append {key : κ} {value : υ} {es : List (κ × υ)} :
    lookup? key es = some value ↔
      ∃ front back, es = front ++ (key, value) :: back ∧ key ∉ front.map Prod.fst := by
  induction es with
  | nil => simp [lookup?]
  | cons e es ih =>
    by_cases hkey : e.1 = key
    · rw [lookup?, if_pos hkey, Option.some.injEq]
      constructor
      · rintro rfl
        exact ⟨[], es, by rw [← hkey]; rfl, List.not_mem_nil⟩
      · rintro ⟨_ | ⟨x, front⟩, back, hsplit, hfront⟩
        · cases hsplit
          rfl
        · cases hsplit
          exact absurd (List.mem_map.2 ⟨e, List.mem_cons_self, hkey⟩) hfront
    · rw [lookup?, if_neg hkey, ih]
      constructor
      · rintro ⟨front, back, rfl, hfront⟩
        exact ⟨e :: front, back, rfl, by simpa [Ne.symm hkey] using hfront⟩
      · rintro ⟨_ | ⟨x, front⟩, back, hsplit, hfront⟩
        · cases hsplit
          exact absurd rfl hkey
        · cases hsplit
          exact ⟨front, back, rfl, fun h => hfront (List.mem_cons_of_mem _ h)⟩

/-- What a look-up finds is one of the pairs, even where several have the same key. -/
lemma mem_of_lookup?_eq_some {key : κ} {value : υ} {es : List (κ × υ)}
    (h : lookup? key es = some value) : (key, value) ∈ es := by
  obtain ⟨front, back, rfl, -⟩ := lookup?_eq_some_iff_append.1 h
  exact List.mem_append_right _ List.mem_cons_self

/-- The first value under a key that is found from the end is the last one. -/
lemma lookup?_reverse_eq_some_iff {key : κ} {value : υ} {es : List (κ × υ)} :
    lookup? key es.reverse = some value ↔ IsLast key value es := by
  rw [lookup?_eq_some_iff_append]
  constructor
  · rintro ⟨front, back, hsplit, hfront⟩
    refine ⟨back.reverse, front.reverse, ?_, by simpa using hfront⟩
    rw [← es.reverse_reverse, hsplit]
    simp
  · rintro ⟨earlier, later, rfl, hlater⟩
    exact ⟨later.reverse, earlier.reverse, by simp, by simpa using hlater⟩

/-- The keys of a table are those under which a look-up finds something. -/
lemma mem_keys_iff {key : κ} : key ∈ t.keys ↔ (t.get? key).isSome := by
  rw [← Option.ne_none_iff_isSome, get?, ne_eq, lookup?_eq_none_iff, not_not, keys]

/-- Tables with the same look-ups have the same entries up to their order. -/
theorem perm_entries_iff : s.entries.Perm t.entries ↔ ∀ key, s.get? key = t.get? key := by
  constructor
  · intro h key
    refine Option.ext fun value => ?_
    rw [← mem_entries_iff, ← mem_entries_iff]
    exact h.mem_iff
  · intro h
    refine (List.perm_ext_iff_of_nodup s.nodup_entries t.nodup_entries).2 fun entry => ?_
    rw [mem_entries_iff s entry.1 entry.2, mem_entries_iff t entry.1 entry.2, h]

/-- Between tables of the same size one inclusion is enough: the keys are distinct, so that no
entry of the second table is left over. -/
theorem get?_eq_of_size_eq (hsize : s.size = t.size)
    (h : ∀ entry ∈ s.entries, t.get? entry.1 = some entry.2) (key : κ) :
    s.get? key = t.get? key := by
  have hsub : s.entries ⊆ t.entries := fun entry he => (mem_entries_iff t _ _).2 (h entry he)
  have hperm : s.entries.Perm t.entries :=
    (List.subperm_of_subset s.nodup_entries hsub).perm_of_length_le (Nat.le_of_eq hsize.symm)
  exact perm_entries_iff.1 hperm key

/-! ## Fewer keys -/

/-- The part of a table that is under some of its keys. -/
def restrict (t : Table κ υ) (keep : κ → Bool) : Table κ υ :=
  ⟨t.entries.filter fun entry => keep entry.1, t.nodup.sublist (List.filter_sublist.map Prod.fst)⟩

lemma get?_restrict (t : Table κ υ) (keep : κ → Bool) (key : κ) :
    (t.restrict keep).get? key = if keep key then t.get? key else none := by
  refine Option.ext fun value => ?_
  rw [Option.ite_none_right_eq_some, ← mem_entries_iff, ← mem_entries_iff, restrict,
    List.mem_filter, and_comm]

/-- A table is one of its entries and the part of it that is under all other keys. -/
lemma perm_cons_restrict {key : κ} {value : υ} (h : t.get? key = some value) :
    t.entries.Perm ((key, value) :: (t.restrict fun k => k ≠ key).entries) := by
  have hnot : (key, value) ∉ (t.restrict fun k => k ≠ key).entries := by simp [restrict]
  refine (List.perm_ext_iff_of_nodup t.nodup_entries
    (List.nodup_cons.2 ⟨hnot, nodup_entries _⟩)).2 fun ⟨k, v⟩ => ?_
  rw [List.mem_cons, Prod.mk.injEq, mem_entries_iff, mem_entries_iff, get?_restrict]
  by_cases hk : k = key
  · subst hk
    simp [h, eq_comm]
  · simp [hk]

/-! ## Writing pairs with distinct keys -/

lemma putEntry_of_notMem {key : κ} {value : υ} {es : List (κ × υ)}
    (h : key ∉ es.map Prod.fst) : putEntry key value es = es ++ [(key, value)] := by
  induction es with
  | nil => rfl
  | cons e es ih =>
    rw [List.map_cons, List.mem_cons, not_or] at h
    rw [putEntry, if_neg (Ne.symm h.1), ih h.2, List.cons_append]

lemma entries_putAll {pairs : List (κ × υ)}
    (h : ((t.entries ++ pairs).map Prod.fst).Nodup) :
    (t.putAll pairs).entries = t.entries ++ pairs := by
  induction pairs generalizing t with
  | nil => exact (List.append_nil _).symm
  | cons pair pairs ih =>
    have hnew : pair.1 ∉ t.entries.map Prod.fst := by
      rw [List.map_append, List.map_cons, List.nodup_append] at h
      exact fun hmem => h.2.2 _ hmem _ List.mem_cons_self rfl
    have hput : (t.put pair.1 pair.2).entries = t.entries ++ [pair] := putEntry_of_notMem hnew
    have hsplit : t.entries ++ pair :: pairs = t.entries ++ [pair] ++ pairs := by simp
    rw [putAll, List.foldl_cons, ← putAll, ih (by rwa [hput, ← hsplit]), hput, hsplit]

/-- Pairs with distinct keys are the entries of the table that they are written to. -/
theorem entries_putAll_empty {pairs : List (κ × υ)} (h : (pairs.map Prod.fst).Nodup) :
    (empty.putAll pairs).entries = pairs :=
  entries_putAll h

end Stencil.Table
