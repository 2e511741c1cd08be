import Mathlib.Algebra.BigOperators.Group.Finset.Basic
import Mathlib.Data.Finset.Card
import Stencil.Proofs.Bindings.Contents
import Stencil.Proofs.Pattern.Name

/-!
# Writing bindings

Bindings are written text by text.  A write under a text that is no key fails and changes nothing;
every other write goes through, and what its key was bound to before is lost.  So the writes that
go through tell everything about the bindings: a key is bound to the value of the last of them that
is under it, and sizes count keys once however often they are written.

The main results are

* `Bindings.get?_afterAll`: what a text is bound to after a sequence of writes;
* `Bindings.size_eq_card`, `Bindings.replacementBytes_eq_sum`: sizes in terms of the bound texts;
* `Bindings.reflects_afterAll`: what bindings tell after a sequence of writes.
-/

namespace Stencil

namespace Bindings

/-- A value, or an explicit absence, that is to be written under a text. -/
abbrev Write := String × Option String

variable {b : Bindings} {text : String}

/-! ## One write -/

lemma insert?_of_isValid {value : Option String} (h : Key.isValid text = true) :
    b.insert? text value = .ok (b.put ⟨text, h⟩ value) := by
  rw [insert?, Key.ofString?_of_isValid h]

lemma insert?_of_not_isValid {value : Option String} (h : Key.isValid text = false) :
    b.insert? text value = .error (.invalidKey text) := by
  rw [insert?, Key.ofString?_of_not_isValid h]

/-- A write fails for the one reason that its text is no key. -/
lemma insert?_eq_error_iff {value : Option String} {e : BindingError} :
    b.insert? text value = .error e ↔ Key.isValid text = false ∧ e = .invalidKey text := by
  cases h : Key.isValid text with
  | true => simp [insert?_of_isValid h]
  | false => simp [insert?_of_not_isValid h, eq_comm]

/-- Bindings after a write is asked for; one that fails changes nothing. -/
def after (b : Bindings) (write : Write) : Bindings :=
  match b.insert? write.1 write.2 with
  | .ok next => next
  | .error _ => b

lemma after_of_isValid {write : Write} (h : Key.isValid write.1 = true) :
    b.after write = b.put ⟨write.1, h⟩ write.2 := by
  rw [after, insert?_of_isValid h]

lemma after_of_not_isValid {write : Write} (h : Key.isValid write.1 = false) :
    b.after write = b := by
  rw [after, insert?_of_not_isValid h]

/-! ## A sequence of writes -/

/-- Bindings after a sequence of writes is asked for. -/
def afterAll (b : Bindings) (writes : List Write) : Bindings := writes.foldl after b

/-- The writes of a sequence that go through. -/
def accepted (writes : List Write) : List Write := writes.filter fun write => Key.isValid write.1

lemma afterAll_append (b : Bindings) (writes more : List Write) :
    b.afterAll (writes ++ more) = (b.afterAll writes).afterAll more :=
  List.foldl_append

lemma afterAll_concat (b : Bindings) (writes : List Write) (write : Write) :
    b.afterAll (writes ++ [write]) = (b.afterAll writes).after write :=
  List.foldl_concat ..

variable (writes : List Write)

/-- After a sequence of writes, a text is bound to the value of the last of them that is under it
and goes through, and if there is none, to what it was bound to before. -/
theorem get?_afterAll (b : Bindings) (text : String) :
    (b.afterAll writes).get? text =
      (Table.lookup? text (accepted writes).reverse).or (b.get? text) := by
  -- on the writes up to the last one: it binds its own text, and leaves all others
  induction writes using List.reverseRecOn with
  | nil => rfl
  | append_singleton writes write ih =>
    rw [afterAll_concat, accepted, List.filter_append, ← accepted, List.reverse_append]
    cases hvalid : Key.isValid write.1 with
    | false => simpa [after_of_not_isValid hvalid, hvalid] using ih
    | true =>
      rw [after_of_isValid hvalid, get?_put, ih]
      by_cases htext : text = write.1
      · simp [hvalid, Table.lookup?, htext]
      · simp [hvalid, Table.lookup?, htext, Ne.symm htext]

lemma get?_afterAll_empty_eq_some_iff {value : Option String} :
    (empty.afterAll writes).get? text = some value ↔
      Table.IsLast text value (accepted writes) := by
  rw [get?_afterAll, get?_empty, Option.or_none, Table.lookup?_reverse_eq_some_iff]

lemma get?_afterAll_empty_eq_none_iff :
    (empty.afterAll writes).get? text = none ↔ text ∉ (accepted writes).map Prod.fst := by
  rw [get?_afterAll, get?_empty, Option.or_none, Table.lookup?_eq_none_iff, List.map_reverse,
    List.mem_reverse]

/-- The texts that are bound are those that have been written. -/
lemma contains_afterAll_empty_iff :
    (empty.afterAll writes).contains text = true ↔ text ∈ (accepted writes).map Prod.fst := by
  rw [contains, ← Option.ne_none_iff_isSome, ne_eq, get?_afterAll_empty_eq_none_iff, not_not]

lemma mem_toFinset_accepted_iff :
    text ∈ ((accepted writes).map Prod.fst).toFinset ↔
      (empty.afterAll writes).contains text = true := by
  rw [List.mem_toFinset, contains_afterAll_empty_iff]

/-! ## Sizes -/

section Sizes

variable {texts : Finset String}

lemma toFinset_texts (h : ∀ text, text ∈ texts ↔ b.contains text = true) :
    (b.pairs.map Prod.fst).toFinset = texts := by
  ext text
  rw [h, ← mem_sortedKeys_iff, List.mem_toFinset, b.map_fst_pairs, sortedKeys_perm.mem_iff]

/-- There are as many keys as texts that are bound. -/
theorem size_eq_card (h : ∀ text, text ∈ texts ↔ b.contains text = true) :
    b.size = texts.card := by
  rw [← toFinset_texts h, List.toFinset_card_of_nodup b.nodup_texts, pairs, List.length_map,
    List.length_map]
  rfl

/-- The bytes of all replacements are those of the texts that are bound to a text; a text that is
bound to an absence has none. -/
theorem replacementBytes_eq_sum (h : ∀ text, text ∈ texts ↔ b.contains text = true) :
    b.replacementBytes = ∑ text ∈ texts, (b.get? text).join.elim 0 String.utf8ByteSize := by
  have hsum : b.replacementBytes =
      (b.pairs.map fun pair => (pair.2.getD "").utf8ByteSize).sum := by
    rw [replacementBytes, List.sum, List.foldr_map]
  have hbytes : ∀ pair ∈ b.pairs,
      (pair.2.getD "").utf8ByteSize = (b.get? pair.1).join.elim 0 String.utf8ByteSize := by
    rintro ⟨text, value⟩ hpair
    rw [mem_pairs_iff.1 hpair]
    cases value <;> rfl
  rw [hsum, List.map_congr_left hbytes, ← toFinset_texts h, List.sum_toFinset _ b.nodup_texts,
    List.map_map]
  rfl

end Sizes

/-! ## What writes leave -/

/-- What bindings tell is what a list of writes leaves if all of them go through. -/
structure Reflects (b : Bindings) (log : List Write) : Prop where
  /-- A text is bound to the value of the last write under it, be it a text or an absence. -/
  get?_eq_some_iff : ∀ text value, b.get? text = some value ↔ Table.IsLast text value log
  /-- A text that nothing is written under is not bound. -/
  get?_eq_none_iff : ∀ text, b.get? text = none ↔ text ∉ log.map Prod.fst
  /-- A hole is filled with the last value under its name, and with nothing for an absence. -/
  replacement?_eq_some_iff : ∀ text replacement, b.replacement? text = some replacement ↔
    ∃ value, Table.IsLast text value log ∧ value.getD "" = replacement
  /-- The bound texts are those that something is written under. -/
  contains_iff : ∀ text, b.contains text = true ↔ text ∈ log.map Prod.fst
  /-- There are as many keys as distinct texts that are written under. -/
  size_eq : b.size = (log.map Prod.fst).toFinset.card
  /-- The bytes are those of the texts that stand last. -/
  replacementBytes_eq : b.replacementBytes =
    ∑ text ∈ (log.map Prod.fst).toFinset, (b.get? text).join.elim 0 String.utf8ByteSize
  /-- Every key is a key in the sense of patterns, so it is short and holds no delimiter. -/
  keys : ∀ text ∈ b.sortedKeys, Key.isValid text = true ∧ text ≠ "" ∧ text.length ≤ 50 ∧
    ∀ c ∈ text.toList, c ∉ Key.delimiters

lemma isValid_of_mem_sortedKeys (h : text ∈ b.sortedKeys) : Key.isValid text = true := by
  rw [mem_sortedKeys_iff, contains, Option.isSome_iff_exists] at h
  obtain ⟨value, hvalue⟩ := h
  obtain ⟨key, rfl, -⟩ := get?_eq_some_iff.1 hvalue
  exact key.valid

/-- A sequence of writes leaves what those of them do that go through. -/
theorem reflects_afterAll : (empty.afterAll writes).Reflects (accepted writes) where
  get?_eq_some_iff _ _ := get?_afterAll_empty_eq_some_iff writes
  get?_eq_none_iff _ := get?_afterAll_empty_eq_none_iff writes
  replacement?_eq_some_iff text replacement := by
    simp only [replacement?, Option.map_eq_some_iff, get?_afterAll_empty_eq_some_iff]
  contains_iff _ := contains_afterAll_empty_iff writes
  size_eq := size_eq_card fun _ => mem_toFinset_accepted_iff writes
  replacementBytes_eq := replacementBytes_eq_sum fun _ => mem_toFinset_accepted_iff writes
  keys text h :=
    have hvalid := isValid_of_mem_sortedKeys h
    ⟨hvalid, Key.bounds_of_isValid hvalid⟩

/-- Two bindings that reflect the same last writes answer alike. -/
lemma Reflects.get?_eq {a : Bindings} {log log' : List Write} (ha : a.Reflects log)
    (hb : b.Reflects log')
    (h : ∀ text value, Table.IsLast text value log ↔ Table.IsLast text value log')
    (text : String) : a.get? text = b.get? text :=
  Option.ext fun value => by
    rw [ha.get?_eq_some_iff, hb.get?_eq_some_iff, h]

end Bindings

end Stencil
