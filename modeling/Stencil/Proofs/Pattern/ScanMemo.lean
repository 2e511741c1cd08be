import Mathlib.Data.Set.Function
import Mathlib.Tactic.Lemma
import Stencil.Pattern.ScanMemo

/-!
# Remembered scans are scans

A memo knows a pattern by the digest of its text only.  As long as no two of the texts that it is
asked about have the same hash, the scan that it finds is the scan of the pattern at hand.  What a
memo has to satisfy for this is `ScanMemo.Holds`, and asking the memo keeps it.

The main results are

* `ScanMemo.Holds.placeholders`: a memo answers with the scan of the pattern;
* `ScanMemo.Holds.coverage`: and so with its coverage.
-/

namespace Stencil

variable [TextHash]

lemma Digest.ofPattern_eq_iff {s t : String} :
    Digest.ofPattern s = Digest.ofPattern t ↔ TextHash.hash s = TextHash.hash t := by
  simp [Digest.ofPattern]

namespace ScanMemo

/-- All that a memo remembers are scans of some texts, under their digests. -/
def Holds (texts : Set String) (memo : ScanMemo) : Prop :=
  ∀ digest bound ps, memo.get? (digest, bound) = some ps →
    ∃ text ∈ texts, Digest.ofPattern text = digest ∧ ps = Placeholder.scan bound text

variable {texts : Set String} {memo : ScanMemo} {text : String}

lemma holds_empty (texts : Set String) : empty.Holds texts := by
  intro digest bound ps h
  cases h

lemma Holds.put (h : memo.Holds texts) (htext : text ∈ texts) (f : Filler) :
    Holds texts (memo.put (key f text) (f.placeholders text)) := by
  intro digest bound ps hps
  rw [Table.get?_put] at hps
  by_cases hkey : (digest, bound) = key f text
  · rw [if_pos hkey, Option.some.injEq] at hps
    obtain ⟨rfl, rfl⟩ := Prod.mk.inj hkey
    exact ⟨text, htext, rfl, hps.symm⟩
  · rw [if_neg hkey] at hps
    exact h digest bound ps hps

/-- Asked about one of the texts, a memo answers with the scan of this text. -/
theorem Holds.placeholders (h : memo.Holds texts) (hinj : Set.InjOn TextHash.hash texts)
    (htext : text ∈ texts) (f : Filler) :
    (memo.placeholders f text).1 = f.placeholders text ∧
      (memo.placeholders f text).2.Holds texts := by
  unfold ScanMemo.placeholders Memo.fetch
  cases hget : memo.get? (key f text) with
  | none => exact ⟨rfl, h.put htext f⟩
  | some ps =>
    obtain ⟨other, hother, hdigest, rfl⟩ := h _ _ _ hget
    have hsame : other = text := hinj hother htext (Digest.ofPattern_eq_iff.1 hdigest)
    exact ⟨congrArg (Placeholder.scan f.bound) hsame, h⟩

/-- Asked about one of the texts, a memo answers with the coverage of this text. -/
theorem Holds.coverage (h : memo.Holds texts) (hinj : Set.InjOn TextHash.hash texts)
    (htext : text ∈ texts) (f : Filler) (b : Bindings) :
    (memo.coverage f text b).1 = Coverage.between (f.placeholders text) b ∧
      (memo.coverage f text b).2.Holds texts := by
  obtain ⟨hfound, hafter⟩ := h.placeholders hinj htext f
  refine ⟨?_, hafter⟩
  rw [← hfound]
  rfl

end ScanMemo

end Stencil
