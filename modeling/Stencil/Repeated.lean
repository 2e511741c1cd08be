/-!
# Repeated elements

The first element of a list that occurs earlier in the list.
-/

namespace Stencil

variable {α : Type} [DecidableEq α]

/-- The first element that is among those seen or equal to an earlier one. -/
def firstRepeated? (seen : List α) : List α → Option α
  | [] => none
  | x :: rest => if x ∈ seen then some x else firstRepeated? (x :: seen) rest

/-- No element repeats, neither in the list nor among those seen, exactly if the list is free of
duplicates and shares no element with them. -/
theorem firstRepeated?_eq_none_iff {seen l : List α} :
    firstRepeated? seen l = none ↔ l.Nodup ∧ ∀ x ∈ l, x ∉ seen := by
  induction l generalizing seen with
  | nil => simp [firstRepeated?]
  | cons x rest ih =>
    by_cases h : x ∈ seen
    · simp [firstRepeated?, h]
    · rw [firstRepeated?, if_neg h, ih, List.nodup_cons]
      simp only [List.mem_cons, not_or, forall_eq_or_imp]
      constructor
      · rintro ⟨hnodup, hrest⟩
        exact ⟨⟨fun hx => (hrest x hx).1 rfl, hnodup⟩, h, fun y hy => (hrest y hy).2⟩
      · rintro ⟨⟨hx, hnodup⟩, _, hrest⟩
        exact ⟨hnodup, fun y hy => ⟨fun hxy => hx (hxy ▸ hy), hrest y hy⟩⟩

end Stencil
