import Stencil.Candidate
import Stencil.Proofs.Text.Delimited

/-!
# Outlines of candidates

The outline of a candidate is what all of its artifacts show: the name, the identity, the type
parameters as they are written, and the visibility.  The modules around the declaration are in it
without being named, since the identity has them together with the number of type parameters.

The main result is `Candidate.SameOutline.fullName_eq`: candidates with the same outline have the
same qualified name, whatever characters their modules are written with.
-/

namespace Stencil

lemma Visibility.lead_injective : Function.Injective Visibility.lead := by
  intro v w
  cases v <;> cases w <;> decide

namespace Candidate

/-- Two candidates have the same outline. -/
structure SameOutline (f g : Candidate) : Prop where
  name : f.name = g.name
  identity : f.identity = g.identity
  generics : f.generics = g.generics
  visibility : f.visibility = g.visibility

variable {f g : Candidate}

lemma generics_eq_empty_iff : f.generics = "" ↔ f.typeParams = [] := by
  unfold generics
  constructor
  · intro h
    by_contra hne
    rw [if_neg hne, String.append_eq_empty_iff] at h
    exact absurd h.2 (by decide)
  · exact fun h => if_pos h

lemma backquote_notMem_toString (n : Nat) : '\x60' ∉ (toString n).toList :=
  fun h => absurd (Text.isDigit_of_mem_toString h) (by decide)

/-- The number of type parameters is behind the last backquote of an identity. -/
lemma fullName_eq_of_identity_eq (hparams : f.typeParams = [] ↔ g.typeParams = [])
    (h : f.identity = g.identity) : f.fullName = g.fullName := by
  unfold identity at h
  by_cases hf : f.typeParams = []
  · rwa [if_pos hf, if_pos (hparams.1 hf)] at h
  · rw [if_neg hf, if_neg (mt hparams.2 hf)] at h
    have hlists := congrArg String.toList h
    simp only [String.toList_append, List.append_assoc] at hlists
    have hcut := Text.eq_of_stop_append (backquote_notMem_toString _)
      (backquote_notMem_toString _) hlists
    exact String.toList_inj.1 hcut.1

/-- An outline tells the qualified name: the modules can be read off the identity once it is known
whether there are type parameters. -/
theorem SameOutline.fullName_eq (h : f.SameOutline g) : f.fullName = g.fullName := by
  refine fullName_eq_of_identity_eq ?_ h.identity
  rw [← generics_eq_empty_iff, ← generics_eq_empty_iff, h.generics]

end Candidate

end Stencil
