/-!
# Tables

A table holds at most one value for each key.  Its entries are kept in the order in which their
keys first came in; no look-up depends on that order.

Main statements:

* `Table.get?_put`: what a look-up answers after a write;
* `Table.mem_entries_iff`: the entries are exactly the answers of the look-ups.
-/

namespace Stencil

variable {κ υ : Type}

/-- Entries under pairwise distinct keys. -/
structure Table (κ υ : Type) where
  entries : List (κ × υ)
  nodup : (entries.map Prod.fst).Nodup

namespace Table

/-- The table without entries. -/
def empty : Table κ υ := ⟨[], List.nodup_nil⟩

/-- The keys of a table. -/
def keys (t : Table κ υ) : List κ := t.entries.map Prod.fst

/-- The number of entries. -/
def size (t : Table κ υ) : Nat := t.entries.length

/-- Whether a table has no entry. -/
def isEmpty (t : Table κ υ) : Bool := t.entries.isEmpty

variable [DecidableEq κ]

/-- The value of the first entry under a key. -/
def lookup? (key : κ) : List (κ × υ) → Option υ
  | [] => none
  | entry :: rest => if entry.1 = key then some entry.2 else lookup? key rest

/-- The value under a key. -/
def get? (t : Table κ υ) (key : κ) : Option υ := lookup? key t.entries

/-- Whether there is a value under a key. -/
def contains (t : Table κ υ) (key : κ) : Bool := (t.get? key).isSome

/-! ## Writing -/

/-- Replaces the value under a key where the key stands, or adds an entry at the end. -/
def putEntry (key : κ) (value : υ) : List (κ × υ) → List (κ × υ)
  | [] => [(key, value)]
  | entry :: rest =>
    if entry.1 = key then (key, value) :: rest else entry :: putEntry key value rest

theorem mem_keys_putEntry {key k : κ} {value : υ} {es : List (κ × υ)} :
    k ∈ (putEntry key value es).map Prod.fst ↔ k = key ∨ k ∈ es.map Prod.fst := by
  induction es with
  | nil => simp [putEntry]
  | cons e es ih =>
    by_cases h : e.1 = key
    · simp [putEntry, h]
    · rw [putEntry, if_neg h, List.map_cons, List.mem_cons, ih, List.map_cons, List.mem_cons]
      exact or_left_comm

theorem nodup_putEntry {key : κ} {value : υ} {es : List (κ × υ)}
    (h : (es.map Prod.fst).Nodup) : ((putEntry key value es).map Prod.fst).Nodup := by
  induction es with
  | nil => simp [putEntry]
  | cons e es ih =>
    rw [List.map_cons, List.nodup_cons] at h
    by_cases hk : e.1 = key
    · rw [putEntry, if_pos hk, List.map_cons, List.nodup_cons]
      exact ⟨hk ▸ h.1, h.2⟩
    · rw [putEntry, if_neg hk, List.map_cons, List.nodup_cons, mem_keys_putEntry]
      exact ⟨fun hm => hm.elim hk h.1, ih h.2⟩

/-- Writes a value under a key; an earlier value under the key is lost. -/
def put (t : Table κ υ) (key : κ) (value : υ) : Table κ υ :=
  ⟨putEntry key value t.entries, nodup_putEntry t.nodup⟩

/-- Writes pairs one after the other into a table. -/
def putAll (t : Table κ υ) (pairs : List (κ × υ)) : Table κ υ :=
  pairs.foldl (fun t pair => t.put pair.1 pair.2) t

/-! ## What look-ups answer -/

@[simp] theorem get?_empty (key : κ) : (empty : Table κ υ).get? key = none := rfl

theorem lookup?_putEntry (key k : κ) (value : υ) (es : List (κ × υ)) :
    lookup? k (putEntry key value es) = if k = key then some value else lookup? k es := by
  induction es with
  | nil => simp only [putEntry, lookup?, eq_comm]
  | cons e es ih =>
    by_cases he : e.1 = key
    · by_cases hk : k = key
      · simp [putEntry, lookup?, he, hk]
      · simp [putEntry, lookup?, he, hk, Ne.symm hk]
    · by_cases hk : e.1 = k
      · subst hk
        simp [putEntry, lookup?, he]
      · simp [putEntry, lookup?, he, hk, ih]

/-- After a write, its key has the value written and every other key the value it had. -/
theorem get?_put (t : Table κ υ) (key k : κ) (value : υ) :
    (t.put key value).get? k = if k = key then some value else t.get? k :=
  lookup?_putEntry key k value t.entries

theorem lookup?_eq_some_iff {key : κ} {value : υ} {es : List (κ × υ)}
    (h : (es.map Prod.fst).Nodup) : lookup? key es = some value ↔ (key, value) ∈ es := by
  induction es with
  | nil => simp [lookup?]
  | cons e es ih =>
    obtain ⟨a, b⟩ := e
    rw [List.map_cons, List.nodup_cons] at h
    by_cases hk : a = key
    · subst hk
      have hnot : (a, value) ∉ es := fun hm => h.1 (List.mem_map.2 ⟨_, hm, rfl⟩)
      simp [lookup?, hnot, eq_comm]
    · simp [lookup?, hk, Ne.symm hk, ih h.2]

/-- The entries of a table are exactly the answers of its look-ups. -/
theorem mem_entries_iff (t : Table κ υ) (key : κ) (value : υ) :
    (key, value) ∈ t.entries ↔ t.get? key = some value :=
  (lookup?_eq_some_iff t.nodup).symm

end Table

end Stencil
