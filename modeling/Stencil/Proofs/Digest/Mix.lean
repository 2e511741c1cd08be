import Mathlib.Tactic.Lemma
import Stencil.Digest.Basic

/-!
# Folds lose nothing

The factor between the two parts of an ordered fold is odd, so a multiplication by it can be undone
modulo `2 ^ 64`.  If one of the two parts is known, the fold tells the other one; so two folds that
share a part are equal exactly if their other parts are.  A fold without an order is a sum, of which
one summand is told by all others.

The main results are

* `Digest.mul_separator_eq_iff`: a multiplication by the factor loses nothing;
* `Digest.mix_left_eq_iff`, `Digest.mix_right_eq_iff`: folds that share a part;
* `Digest.combine_cons_eq_iff`: folds without an order that share all parts but one;
* `Digest.ofIdentity_eq_iff`, `Digest.ofEntry_eq_iff_values`: digests of texts.
-/

namespace Stencil.Digest

/-- The word that undoes a multiplication by the separator. -/
def separatorInverse : UInt64 := 0xd3f20f0a40208825

lemma separator_mul_inverse : separator * separatorInverse = 1 := by decide

/-- Equal multiples of the separator are multiples by the same word. -/
lemma mul_separator_eq_iff {a b : UInt64} : a * separator = b * separator ↔ a = b := by
  constructor
  · intro h
    calc a = a * separator * separatorInverse := by
          rw [UInt64.mul_assoc, separator_mul_inverse, UInt64.mul_one]
      _ = b * separator * separatorInverse := by rw [h]
      _ = b := by rw [UInt64.mul_assoc, separator_mul_inverse, UInt64.mul_one]
  · rintro rfl
    rfl

/-- Two folds with the same second part are equal exactly if their first parts are. -/
lemma mix_left_eq_iff {a b c : Digest} : a.mix c = b.mix c ↔ a = b := by
  simp only [mix, mk.injEq, UInt64.add_left_inj, mul_separator_eq_iff]
  exact ⟨fun h => congrArg mk h, congrArg bits⟩

/-- Two folds with the same first part are equal exactly if their second parts are. -/
lemma mix_right_eq_iff {a b c : Digest} : a.mix b = a.mix c ↔ b = c := by
  simp only [mix, mk.injEq, UInt64.add_right_inj]
  exact ⟨fun h => congrArg mk h, congrArg bits⟩

/-- Two folds without an order that differ in one part are equal exactly if that part is. -/
lemma combine_cons_eq_iff {d e : Digest} {ds : List Digest} :
    combine (d :: ds) = combine (e :: ds) ↔ d = e := by
  simp only [combine, total, List.foldr_cons, List.length_cons, mk.injEq, UInt64.add_right_inj,
    UInt64.add_left_inj]
  exact ⟨fun h => congrArg mk h, congrArg bits⟩

section Content

variable [TextHash]

/-- The digests of two identities with one tag are equal exactly if the hashes of the identities
are. -/
lemma ofIdentity_eq_iff {tag : UInt64} {s t : String} :
    ofIdentity tag s = ofIdentity tag t ↔ TextHash.hash s = TextHash.hash t := by
  simp only [ofIdentity, mk.injEq, UInt64.add_left_inj, mul_separator_eq_iff,
    UInt64.xor_right_inj]

/-- The digests of one identity with two tags are equal exactly if the tags are. -/
lemma ofIdentity_eq_iff_tags {tag tag' : UInt64} {s : String} :
    ofIdentity tag s = ofIdentity tag' s ↔ tag = tag' := by
  simp only [ofIdentity, mk.injEq, UInt64.add_right_inj]

/-- The digests of two entries with one value are equal exactly if the hashes of the keys are. -/
lemma ofEntry_eq_iff_keys {s t : String} {value : Option String} :
    ofEntry s value = ofEntry t value ↔ TextHash.hash s = TextHash.hash t := by
  simp only [ofEntry, mk.injEq, UInt64.add_left_inj, mul_separator_eq_iff, UInt64.xor_right_inj]

/-- What makes two values the same to a digest: the hash of two texts, and of a text and an absence
the word that the text is hashed to. -/
def ValuesCollide : Option String → Option String → Prop
  | some v, some w => TextHash.hash v = TextHash.hash w
  | some v, none => valueMark ^^^ TextHash.hash v = absentMark
  | none, some w => valueMark ^^^ TextHash.hash w = absentMark
  | none, none => True

/-- The digests of two entries with one key are equal exactly if their values are the same to a
digest. -/
lemma ofEntry_eq_iff_values {s : String} {v w : Option String} :
    ofEntry s v = ofEntry s w ↔ ValuesCollide v w := by
  simp only [ofEntry, mk.injEq, UInt64.add_right_inj]
  cases v <;> cases w <;> simp [valueBits, ValuesCollide, eq_comm]

end Content

end Stencil.Digest
