import Stencil.Bindings
import Stencil.Proofs.Table.Contents

/-!
# The contents of bindings

Bindings with the same answers for all texts have the same entries, in whatever order these came
in.  So everything that is computed from the entries regardless of their order, the digest before
all, depends on the answers alone, and the comparison of bindings decides whether the answers are
the same.

The main results are

* `Bindings.beq_iff`: bindings are equal exactly if they answer alike;
* `Bindings.digest_congr`: bindings that answer alike have the same digest;
* `Bindings.pairs_perm_cons_without`: one of the bindings, and all others.
-/

namespace Stencil

namespace Digest

lemma total_perm {ds es : List Digest} (h : ds.Perm es) : total ds = total es := by
  refine h.foldr_eq' (fun d _ e _ sum => ?_) 0
  rw [← UInt64.add_assoc, UInt64.add_comm e.bits, UInt64.add_assoc]

/-- The order of what is folded together does not count. -/
lemma combine_perm {ds es : List Digest} (h : ds.Perm es) : combine ds = combine es := by
  rw [combine, combine, total_perm h, h.length_eq]

end Digest

lemma Key.text_injective : Function.Injective Key.text := by
  rintro ⟨a, _⟩ ⟨b, _⟩ rfl
  rfl

namespace Bindings

variable {a b : Bindings}

/-- Answers for all texts are answers for all keys, since no other text is bound. -/
lemma forall_get?_eq_iff :
    (∀ text, a.get? text = b.get? text) ↔ ∀ key : Key, a.table.get? key = b.table.get? key := by
  constructor
  · intro h key
    simpa [get?] using h key.text
  · intro h text
    unfold get?
    cases Key.ofString? text with
    | none => rfl
    | some key => exact h key

/-- A text with an answer is a key, and the answer is what the key is bound to. -/
lemma get?_eq_some_iff {text : String} {value : Option String} :
    a.get? text = some value ↔ ∃ key : Key, text = key.text ∧ a.table.get? key = some value := by
  simp only [get?, Option.bind_eq_some_iff, Key.ofString?_eq_some_iff]

/-- The text of a key is bound exactly if the key is one of the table. -/
lemma contains_text_iff {key : Key} : a.contains key.text = true ↔ key ∈ a.table.keys := by
  rw [contains, get?, Key.ofString?_text, Option.bind_some]
  exact Table.mem_keys_iff.symm

lemma map_fst_pairs (b : Bindings) : b.pairs.map Prod.fst = b.table.keys.map Key.text := by
  rw [pairs, Table.keys, List.map_map, List.map_map]
  rfl

/-- Sorted or not, the bound texts are those of the keys. -/
lemma sortedKeys_perm : a.sortedKeys.Perm (a.table.keys.map Key.text) := by
  rw [sortedKeys, sortedPairs, ← map_fst_pairs]
  exact (List.mergeSort_perm _ _).map _

/-- The keys of a table have distinct texts. -/
lemma nodup_texts (b : Bindings) : (b.pairs.map Prod.fst).Nodup := by
  rw [map_fst_pairs]
  exact b.table.nodup.map Key.text_injective

lemma mem_pairs_iff {text : String} {value : Option String} :
    (text, value) ∈ b.pairs ↔ b.get? text = some value := by
  simp only [pairs, List.mem_map, Prod.mk.injEq, get?_eq_some_iff]
  constructor
  · rintro ⟨⟨key, v⟩, hmem, rfl, rfl⟩
    exact ⟨key, rfl, (Table.mem_entries_iff b.table key v).1 hmem⟩
  · rintro ⟨key, rfl, hkey⟩
    exact ⟨(key, value), (Table.mem_entries_iff b.table key value).2 hkey, rfl, rfl⟩

/-- The texts that are listed are those that are bound. -/
lemma mem_sortedKeys_iff {text : String} : text ∈ b.sortedKeys ↔ b.contains text = true := by
  rw [contains, Option.isSome_iff_exists, sortedKeys, sortedPairs,
    ((List.mergeSort_perm b.pairs _).map Prod.fst).mem_iff]
  simp only [List.mem_map, Prod.exists, exists_and_right, exists_eq_right, mem_pairs_iff]

/-- The texts that are listed are in strictly increasing order: they are sorted, and distinct. -/
lemma pairwise_sortedKeys (b : Bindings) : b.sortedKeys.Pairwise (· < ·) := by
  have hsorted : b.sortedPairs.Pairwise fun p q => p.1 ≤ q.1 := by
    refine (List.pairwise_mergeSort ?_ ?_ b.pairs).imp of_decide_eq_true
    · simp only [decide_eq_true_eq]
      exact fun _ _ _ => String.le_trans
    · intro p q
      simpa using String.le_total p.1 q.1
  have hnodup : b.sortedKeys.Nodup :=
    sortedKeys_perm.nodup_iff.2 (b.map_fst_pairs ▸ b.nodup_texts)
  exact ((List.pairwise_map.2 hsorted).and hnodup).imp fun h =>
    (Std.le_iff_lt_or_eq.1 h.1).resolve_right h.2

lemma perm_entries_iff :
    a.table.entries.Perm b.table.entries ↔ ∀ text, a.get? text = b.get? text :=
  Table.perm_entries_iff.trans forall_get?_eq_iff.symm

/-- The pairs determine the answers, in whatever order they are. -/
lemma perm_pairs_iff : a.pairs.Perm b.pairs ↔ ∀ text, a.get? text = b.get? text := by
  have hinj : Function.Injective fun e : Key × Option String => (e.1.text, e.2) := by
    rintro ⟨⟨text, _⟩, value⟩ ⟨⟨text', _⟩, value'⟩ h
    simp_all
  rw [← perm_entries_iff]
  exact List.map_perm_map_iff hinj

/-- Bindings of one size that agree on the keys of the first agree everywhere. -/
lemma get?_eq_of_subsumed (hsize : a.size = b.size) (h : a.subsumed b = true) (text : String) :
    a.get? text = b.get? text := by
  rw [subsumed, List.all_eq_true] at h
  have hentries : ∀ entry ∈ a.table.entries, b.table.get? entry.1 = some entry.2 :=
    fun entry he => beq_iff_eq.1 (h entry he)
  exact forall_get?_eq_iff.2 (Table.get?_eq_of_size_eq hsize hentries) text

lemma size_congr (h : ∀ text, a.get? text = b.get? text) : a.size = b.size :=
  (perm_entries_iff.2 h).length_eq

lemma subsumed_of_get?_eq (h : ∀ text, a.get? text = b.get? text) : a.subsumed b = true := by
  rw [subsumed, List.all_eq_true]
  intro entry he
  rw [← forall_get?_eq_iff.1 h, (Table.mem_entries_iff a.table entry.1 entry.2).1 he]
  exact beq_self_eq_true _

/-- Bindings are equal exactly if they give the same answer for every text. -/
lemma beq_iff : (a == b) = true ↔ ∀ text, a.get? text = b.get? text := by
  show (a.size == b.size && a.subsumed b) = true ↔ _
  rw [Bool.and_eq_true, beq_iff_eq]
  constructor
  · rintro ⟨hsize, hsub⟩
    exact get?_eq_of_subsumed hsize hsub
  · intro h
    exact ⟨size_congr h, subsumed_of_get?_eq h⟩

/-- Bindings that answer alike have the same digest, whatever the hash of texts. -/
lemma digest_congr [TextHash] (h : ∀ text, a.get? text = b.get? text) : a.digest = b.digest :=
  Digest.combine_perm ((perm_pairs_iff.2 h).map _)

/-! ## Fewer keys -/

/-- The bindings of some texts. -/
def restrict (b : Bindings) (keep : String → Bool) : Bindings :=
  ⟨b.table.restrict fun key => keep key.text⟩

/-- The bindings of all texts but one. -/
def without (b : Bindings) (text : String) : Bindings := b.restrict fun other => other ≠ text

lemma get?_restrict (b : Bindings) (keep : String → Bool) (text : String) :
    (b.restrict keep).get? text = if keep text then b.get? text else none := by
  refine Option.ext fun value => ?_
  simp only [Option.ite_none_right_eq_some, get?_eq_some_iff, restrict, Table.get?_restrict]
  constructor
  · rintro ⟨key, rfl, hkeep, hkey⟩
    exact ⟨hkeep, key, rfl, hkey⟩
  · rintro ⟨hkeep, key, rfl, hkey⟩
    exact ⟨key, rfl, hkeep, hkey⟩

lemma get?_without (b : Bindings) (text other : String) :
    (b.without text).get? other = if other = text then none else b.get? other := by
  rw [without, get?_restrict]
  simp

/-- Bindings are what one text is bound to, and the bindings of all others. -/
lemma pairs_perm_cons_without {text : String} {value : Option String}
    (h : b.get? text = some value) : b.pairs.Perm ((text, value) :: (b.without text).pairs) := by
  obtain ⟨key, rfl, hkey⟩ := get?_eq_some_iff.1 h
  have hsame : (b.without key.text).table = b.table.restrict fun k => k ≠ key := by
    simp only [without, restrict, ne_eq, Key.text_injective.eq_iff]
  rw [pairs, pairs, hsame]
  exact (Table.perm_cons_restrict hkey).map _

end Bindings

end Stencil
