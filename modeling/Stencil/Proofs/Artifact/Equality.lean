import Stencil.Artifact.Descriptor
import Stencil.Proofs.Pattern.Styles

/-!
# Equality of descriptors

The comparison of descriptors takes short cuts: it compares sizes and fingerprints, and it looks
the bindings of the first up in the second but not the other way round.  None of this shows.  Equal
sizes make the one-sided look-up a two-sided one, and descriptors that say the same have the same
fingerprint whatever the hash of texts is, so that the fingerprints never keep them apart.

The main results are

* `Descriptor.beq_iff`: descriptors are equal exactly if they say the same;
* `Descriptor.beq_exact`: equality is structural, and what is computed from equal descriptors or
  equal bindings is equal.
-/

namespace Stencil.Descriptor

variable {a b c : Descriptor}

lemma Agrees.refl (a : Descriptor) : a.Agrees a := ⟨rfl, rfl, fun _ => rfl⟩

lemma Agrees.symm (h : a.Agrees b) : b.Agrees a :=
  ⟨h.identity.symm, h.kind.symm, fun key => (h.get? key).symm⟩

lemma Agrees.trans (h : a.Agrees b) (h' : b.Agrees c) : a.Agrees c :=
  ⟨h.identity.trans h'.identity, h.kind.trans h'.kind, fun key => (h.get? key).trans (h'.get? key)⟩

variable [TextHash]

/-- Descriptors that say the same have the same fingerprint. -/
lemma Agrees.fingerprint_eq (h : a.Agrees b) : a.fingerprint = b.fingerprint := by
  rw [fingerprint, fingerprint, h.identity, h.kind, Bindings.digest_congr h.get?]

/-- Descriptors are equal exactly if identity, kind and all answers of the bindings are. -/
theorem beq_iff : (a == b) = true ↔ a.Agrees b := by
  show same a b = true ↔ _
  simp only [same, Bool.and_eq_true, beq_iff_eq]
  constructor
  · rintro ⟨⟨⟨⟨hidentity, hkind⟩, hsize⟩, -⟩, hsub⟩
    exact ⟨hidentity, hkind, Bindings.get?_eq_of_subsumed hsize hsub⟩
  · intro h
    have hsize := Bindings.size_congr h.get?
    have hsub := Bindings.subsumed_of_get?_eq h.get?
    exact ⟨⟨⟨⟨h.identity, h.kind⟩, hsize⟩, h.fingerprint_eq⟩, hsub⟩

/-- Equality is structural, for descriptors and for bindings: a missing key, an absent value and
an empty text are three different answers, and the order of the entries does not count.  Equal
descriptors have equal fingerprints and hashes and are filled into any pattern alike; equal
bindings have equal digests. -/
theorem beq_exact (a b : Descriptor) (x y : Bindings) :
    ((a == b) = true ↔
      a.identity = b.identity ∧ a.kind = b.kind ∧
        ∀ text, a.bindings.get? text = b.bindings.get? text) ∧
    ((a == b) = true →
      a.fingerprint = b.fingerprint ∧ hash a = hash b ∧
        ∀ (f : Filler) (pattern : String), f.fill pattern a.bindings = f.fill pattern b.bindings) ∧
    ((x == y) = true ↔ ∀ text, x.get? text = y.get? text) ∧
    ((x == y) = true → x.digest = y.digest) := by
  refine ⟨?_, ?_, Bindings.beq_iff, fun h => Bindings.digest_congr (Bindings.beq_iff.1 h)⟩
  · rw [beq_iff]
    constructor
    · exact fun h => ⟨h.identity, h.kind, h.get?⟩
    · rintro ⟨hidentity, hkind, hget⟩
      exact ⟨hidentity, hkind, hget⟩
  · intro heq
    have h : a.Agrees b := beq_iff.1 heq
    have hfingerprint := h.fingerprint_eq
    exact ⟨hfingerprint, congrArg Digest.bits hfingerprint,
      fun f pattern => f.fill_congr h.get? pattern⟩

end Stencil.Descriptor
