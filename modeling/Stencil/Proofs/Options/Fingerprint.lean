import Stencil.Options
import Stencil.Proofs.Digest.Mix

/-!
# The digest of options tells options apart

The digest of options folds four numbers one after the other: the hash of the toolchain, the bits
of the formats, and a number each for header and style.  The last three are small.  If two digests
with the same toolchain are equal, then undoing the folds leaves an equation between the bits of the
formats, in which header and style stand as multiples of the inverse of the factor and of its
square.  These multiples are far from zero (`Options.drift_far`), further than two sets of formats
can be apart, unless header and style are the same.

The main results are

* `Options.fingerprint_eq_iff`: under one toolchain, equal digests are digests of equal options;
* `Options.fingerprint_eq_iff_hash_eq`: with other options equal, the hash of the toolchain decides.
-/

namespace Stencil.Options

open Digest (separator separatorInverse separator_mul_inverse)

/-- The number that stands for the header in digests. -/
def headerCode (header : Bool) : UInt64 := if header then 1 else 0

/-- How far the bits of the formats would have to be apart to make up for a difference in header
and style. -/
def drift (header header' : Bool) (style style' : Style) : UInt64 :=
  (headerCode header' - headerCode header) * separatorInverse +
    (styleCode style' - styleCode style) * separatorInverse * separatorInverse

/-- A difference in header or style asks for bits that are far apart, in either direction. -/
lemma drift_far (header header' : Bool) (style style' : Style) :
    header = header' ∧ style = style' ∨
      256 ≤ (drift header header' style style').toNat ∧
        256 ≤ (-drift header header' style style').toNat := by
  cases header <;> cases header' <;> cases style <;> cases style' <;> decide +kernel

lemma drift_self (header : Bool) (style : Style) : drift header header style style = 0 := by
  simp [drift]

/-- Two folds of three words over the same start, undone to their first words: the differences of
the other words reach these as multiples of the inverse. -/
lemma eq_add_of_folds_eq {x u v w u' v' w' : UInt64}
    (h : ((x * separator + u) * separator + v) * separator + w =
      ((x * separator + u') * separator + v') * separator + w') :
    u = u' + ((v' - v) * separatorInverse + (w' - w) * separatorInverse * separatorInverse) := by
  have hinverse := separator_mul_inverse
  grind

variable [TextHash] {a b : Options}

/-- Equal digests that start with the same toolchain have formats that make up for the difference
in header and style. -/
lemma bits_eq_add_drift (htoolchain : a.toolchain = b.toolchain)
    (h : a.fingerprint = b.fingerprint) :
    a.serialization.bits.toUInt64 =
      b.serialization.bits.toUInt64 + drift a.header b.header a.style b.style := by
  have hfold := congrArg Digest.bits h
  simp only [fingerprint, Digest.mix, htoolchain] at hfold
  exact eq_add_of_folds_eq hfold

/-- Under one toolchain, equal digests are digests of equal options. -/
theorem fingerprint_eq_iff (htoolchain : a.toolchain = b.toolchain) :
    a.fingerprint = b.fingerprint ↔ a = b := by
  constructor
  · intro h
    have hbits := bits_eq_add_drift htoolchain h
    have hsettings : a.header = b.header ∧ a.style = b.style := by
      refine (drift_far a.header b.header a.style b.style).resolve_right ?_
      rintro ⟨hahead, hbehind⟩
      -- both sets of formats have eight bits only
      have hwords := congrArg UInt64.toNat hbits
      rw [UInt64.toNat_add, UInt8.toNat_toUInt64, UInt8.toNat_toUInt64] at hwords
      rw [UInt64.toNat_neg, UInt64.size] at hbehind
      have hleft := a.serialization.bits.toNat_lt
      have hright := b.serialization.bits.toNat_lt
      omega
    rw [hsettings.1, hsettings.2, drift_self, UInt64.add_zero, UInt8.toUInt64_inj] at hbits
    obtain ⟨⟨bits⟩, header, toolchain, style⟩ := a
    obtain ⟨⟨bits'⟩, header', toolchain', style'⟩ := b
    obtain ⟨rfl, rfl⟩ := hsettings
    subst hbits htoolchain
    rfl
  · rintro rfl
    rfl

/-- Options that differ in their toolchain only have equal digests exactly if the toolchains have
equal hashes. -/
theorem fingerprint_eq_iff_hash_eq (hserialization : a.serialization = b.serialization)
    (hheader : a.header = b.header) (hstyle : a.style = b.style) :
    a.fingerprint = b.fingerprint ↔ TextHash.hash a.toolchain = TextHash.hash b.toolchain := by
  rw [fingerprint, fingerprint, hserialization, hheader, hstyle, Digest.mix_left_eq_iff,
    Digest.mix_left_eq_iff, Digest.mix_left_eq_iff, Digest.ofIdentity_eq_iff]

end Stencil.Options
