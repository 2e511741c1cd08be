/-!
# Tables of code points

A property of characters is given by a table of closed ranges of code points, in increasing
order and with gaps between them.  `inRanges` looks a code point up; because the table is
sorted, the look-up ends at the first range that starts above the code point.

Main statement: on a sorted table, `inRanges_iff` says that this look-up misses no range.
-/

namespace Stencil.Text

/-- Whether a code point lies in one of the closed ranges of a table sorted upwards. -/
def inRanges (code : Nat) : List (Nat × Nat) → Bool
  | [] => false
  | (low, high) :: rest => low ≤ code && (code ≤ high || inRanges code rest)

/-- Whether the ranges of a table are non-empty and follow each other upwards with gaps. -/
def sortedRanges : List (Nat × Nat) → Bool
  | [] => true
  | [(low, high)] => low ≤ high
  | (low, high) :: (low', high') :: rest =>
    low ≤ high && high + 1 < low' && sortedRanges ((low', high') :: rest)

theorem sortedRanges_tail {r : Nat × Nat} {rest : List (Nat × Nat)}
    (h : sortedRanges (r :: rest) = true) : sortedRanges rest = true := by
  cases rest with
  | nil => rfl
  | cons r' rest =>
    simp only [sortedRanges, Bool.and_eq_true] at h
    exact h.2

theorem low_le_of_sortedRanges {r : Nat × Nat} {rest : List (Nat × Nat)}
    (h : sortedRanges (r :: rest) = true) : ∀ r' ∈ rest, r.1 ≤ r'.1 := by
  induction rest generalizing r with
  | nil => simp
  | cons s rest ih =>
    have htail := sortedRanges_tail h
    simp only [sortedRanges, Bool.and_eq_true, decide_eq_true_eq] at h
    have hrs : r.1 ≤ s.1 := by omega
    intro r' hr'
    rcases List.mem_cons.1 hr' with rfl | hr'
    · exact hrs
    · exact Nat.le_trans hrs (ih htail r' hr')

/-- In a sorted table a code point is found exactly if it lies in some range. -/
theorem inRanges_iff {table : List (Nat × Nat)} (h : sortedRanges table = true) {code : Nat} :
    inRanges code table = true ↔ ∃ r ∈ table, r.1 ≤ code ∧ code ≤ r.2 := by
  induction table with
  | nil => simp [inRanges]
  | cons r rest ih =>
    have hlow := low_le_of_sortedRanges h
    simp only [inRanges, Bool.and_eq_true, Bool.or_eq_true, decide_eq_true_eq,
      ih (sortedRanges_tail h)]
    constructor
    · rintro ⟨hl, hh | ⟨r', hr', hin⟩⟩
      · exact ⟨r, List.mem_cons_self, hl, hh⟩
      · exact ⟨r', List.mem_cons_of_mem r hr', hin⟩
    · rintro ⟨r', hr', hl, hh⟩
      rcases List.mem_cons.1 hr' with rfl | hr'
      · exact ⟨hl, Or.inl hh⟩
      · exact ⟨Nat.le_trans (hlow r' hr') hl, Or.inr ⟨r', hr', hl, hh⟩⟩

end Stencil.Text
