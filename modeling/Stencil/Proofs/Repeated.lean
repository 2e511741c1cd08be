import Mathlib.Data.List.Pairwise
import Mathlib.Tactic.Lemma
import Stencil.Repeated

/-!
# The first element that repeats an earlier one

A search that goes through a list and asks of each element whether it fails behind those in front
of it finds the first that does.  The search for repeated elements is one of these.  In a list that
is strictly sorted by some order, what stands in front of an element is what comes before it in the
order; so the first repeated one among the values at its elements is also known from the order.

The main results are

* `search_eq_some_iff`: what such a search finds;
* `firstRepeated?_eq_some_iff`: the first repeated element of a list;
* `firstRepeated?_filterMap_eq_some_iff`: the first repeated value in a sorted list.
-/

namespace Stencil

/-! ## The first of a list that fails -/

/-- A search that asks of each element in turn whether it fails behind those in front of it finds
the failure of the first element that does. -/
lemma search_eq_some_iff {α β γ : Type} {search : List γ → List α → Option β}
    (flaw? : List γ → α → Option β) (label : α → γ) (hnil : ∀ seen, search seen [] = none)
    (hcons : ∀ seen x rest,
      search seen (x :: rest) = (flaw? seen x).or (search (label x :: seen) rest))
    {seen : List γ} {l : List α} {d : β} :
    search seen l = some d ↔
      ∃ earlier x later, l = earlier ++ x :: later ∧ search seen earlier = none ∧
        flaw? ((earlier.map label).reverse ++ seen) x = some d := by
  induction l generalizing seen with
  | nil => simp [hnil]
  | cons y rest ih =>
    cases hflaw : flaw? seen y with
    | some e =>
      rw [hcons, hflaw, Option.some_or]
      constructor
      · intro h
        exact ⟨[], y, rest, rfl, hnil seen, hflaw.trans h⟩
      · rintro ⟨_ | ⟨z, earlier⟩, x, later, hl, hearlier, hx⟩
        · obtain ⟨rfl, -⟩ := List.cons.inj hl
          exact hflaw.symm.trans hx
        · obtain ⟨rfl, -⟩ := List.cons.inj hl
          simp [hcons, hflaw] at hearlier
    | none =>
      rw [hcons, hflaw, Option.none_or, ih]
      constructor
      · rintro ⟨earlier, x, later, rfl, hearlier, hx⟩
        refine ⟨y :: earlier, x, later, rfl, ?_, by simpa using hx⟩
        rw [hcons, hflaw, Option.none_or, hearlier]
      · rintro ⟨_ | ⟨z, earlier⟩, x, later, hl, hearlier, hx⟩
        · obtain ⟨rfl, -⟩ := List.cons.inj hl
          simp [hflaw] at hx
        · obtain ⟨rfl, rfl⟩ := List.cons.inj hl
          rw [hcons, hflaw, Option.none_or] at hearlier
          exact ⟨earlier, x, later, rfl, hearlier, by simpa using hx⟩

/-- The first repeated element is the first one that is equal to an element in front of it. -/
lemma firstRepeated?_eq_some_iff {α : Type} [DecidableEq α] {l : List α} {x : α} :
    firstRepeated? [] l = some x ↔
      ∃ earlier later, l = earlier ++ x :: later ∧ earlier.Nodup ∧ x ∈ earlier := by
  have hcons : ∀ (seen : List α) y rest, firstRepeated? seen (y :: rest) =
      (if y ∈ seen then some y else none).or (firstRepeated? (y :: seen) rest) := by
    intro seen y rest
    by_cases h : y ∈ seen <;> simp [firstRepeated?, h]
  rw [search_eq_some_iff _ id (fun _ => rfl) hcons]
  simp only [firstRepeated?_eq_none_iff, List.map_id, List.append_nil, List.mem_reverse,
    Option.ite_none_right_eq_some, Option.some.injEq, List.not_mem_nil, not_false_eq_true,
    implies_true, and_true]
  constructor
  · rintro ⟨earlier, y, later, hl, hnodup, hy, rfl⟩
    exact ⟨earlier, later, hl, hnodup, hy⟩
  · rintro ⟨earlier, later, hl, hnodup, hx⟩
    exact ⟨earlier, x, later, hl, hnodup, hx, rfl⟩

/-! ## Sorted lists -/

section Sorted

variable {α β : Type} {r : α → α → Prop} [Std.Irrefl r] [IsTrans α r] {f : α → Option β}
  {l : List α}

/-- What stands in front of an element of a sorted list is what comes before it. -/
lemma mem_front_iff {front back : List α} {a b : α} (hl : (front ++ a :: back).Pairwise r)
    (hb : b ∈ front ++ a :: back) : b ∈ front ↔ r b a := by
  rw [List.pairwise_append, List.pairwise_cons] at hl
  obtain ⟨-, ⟨hback, -⟩, hfront⟩ := hl
  constructor
  · exact fun h => hfront b h a List.mem_cons_self
  · intro h
    rcases List.mem_append.1 hb with hb | hb
    · exact hb
    · rcases List.mem_cons.1 hb with rfl | hb
      · exact absurd h (irrefl b)
      · exact absurd (trans_of r h (hback b hb)) (irrefl b)

/-- The elements of a sorted list that come before one of them are those in front of it, in their
order. -/
lemma filter_eq_front [DecidableRel r] {front back : List α} {a : α}
    (hl : (front ++ a :: back).Pairwise r) :
    (front ++ a :: back).filter (fun b => r b a) = front := by
  have hfront : ∀ b ∈ front, r b a := fun b hb =>
    (mem_front_iff hl (List.mem_append_left _ hb)).1 hb
  have hback : ∀ b ∈ a :: back, ¬ r b a := by
    rw [List.pairwise_append, List.pairwise_cons] at hl
    obtain ⟨-, ⟨hafter, -⟩, -⟩ := hl
    rintro b hb hba
    rcases List.mem_cons.1 hb with rfl | hb
    · exact irrefl b hba
    · exact irrefl b (trans_of r hba (hafter b hb))
  rw [List.filter_append, List.filter_eq_self.2 (by simpa using hfront),
    List.filter_eq_nil_iff.2 (by simpa using hback), List.append_nil]

omit [IsTrans α r] in
/-- The values at the elements of a sorted list are distinct if no element has the value of one
that comes before it. -/
lemma nodup_filterMap_iff (hl : l.Pairwise r) :
    (l.filterMap f).Nodup ↔ ∀ a ∈ l, ∀ b ∈ l, r b a → ∀ x, f a = some x → f b ≠ some x := by
  rw [List.Nodup, List.pairwise_filterMap]
  constructor
  · intro h a ha b hb hba x hx hx'
    have hsymm : Std.Symm fun a b => ∀ x, f a = some x → ∀ y, f b = some y → x ≠ y :=
      ⟨fun a b hab x hx y hy => (hab y hy x hx).symm⟩
    have hne : a ≠ b := ne_of_irrefl' hba
    exact h.forall ha hb hne x hx x hx' rfl
  · intro h
    refine hl.imp_of_mem fun {a b} ha hb hab x hx y hy hxy => ?_
    exact h b hb a ha hab y hy (hxy ▸ hx)

/-- The first repeated value in a sorted list is the value at an element that has the value of an
element before, where no element before has the value of one that comes before this in turn. -/
theorem firstRepeated?_filterMap_eq_some_iff [DecidableEq β] (hl : l.Pairwise r) {x : β} :
    firstRepeated? [] (l.filterMap f) = some x ↔
      ∃ a ∈ l, (f a = some x ∧ ∃ b ∈ l, r b a ∧ f b = some x) ∧
        ∀ a' ∈ l, r a' a → ∀ y, f a' = some y → ∀ b ∈ l, r b a' → f b ≠ some y := by
  rw [firstRepeated?_eq_some_iff]
  constructor
  · rintro ⟨earlier, later, hsplit, hnodup, hx⟩
    obtain ⟨front, rest, rfl, rfl, hrest⟩ := List.filterMap_eq_append_iff.1 hsplit
    obtain ⟨gap, a, back, rfl, hgap, ha, -⟩ := List.filterMap_eq_cons_iff.1 hrest
    -- the elements in the gap have no value, so they can be counted to the front
    have hfront : (front ++ gap).filterMap f = front.filterMap f := by
      rw [List.filterMap_append, List.filterMap_eq_nil_iff.2 hgap, List.append_nil]
    rw [← hfront] at hnodup hx
    rw [← List.append_assoc] at hl ⊢
    have hmem {b : α} (hb : b ∈ front ++ gap ++ a :: back) : b ∈ front ++ gap ↔ r b a :=
      mem_front_iff hl hb
    obtain ⟨b, hb, hbx⟩ := List.mem_filterMap.1 hx
    have hb' := List.mem_append_left (a :: back) hb
    refine ⟨a, by simp, ⟨ha, b, hb', (hmem hb').1 hb, hbx⟩, ?_⟩
    intro a' ha' hbefore y hy b' hb' hbefore'
    exact (nodup_filterMap_iff (List.pairwise_append.1 hl).1).1 hnodup a' ((hmem ha').2 hbefore) b'
      ((hmem hb').2 (trans_of r hbefore' hbefore)) hbefore' y hy
  · rintro ⟨a, ha, ⟨hx, b, hb, hba, hbx⟩, hfirst⟩
    obtain ⟨front, back, rfl⟩ := List.append_of_mem ha
    have hmem {b : α} (hb : b ∈ front ++ a :: back) : b ∈ front ↔ r b a := mem_front_iff hl hb
    refine ⟨front.filterMap f, back.filterMap f, ?_, ?_, ?_⟩
    · rw [List.filterMap_append, List.filterMap_cons_some hx]
    · refine (nodup_filterMap_iff (List.pairwise_append.1 hl).1).2 ?_
      intro a' ha' b' hb' hbefore y hy
      have ha'' := List.mem_append_left (a :: back) ha'
      exact hfirst a' ha'' ((hmem ha'').1 ha') y hy b' (List.mem_append_left _ hb') hbefore
    · exact List.mem_filterMap.2 ⟨b, (hmem hb).2 hba, hbx⟩

end Sorted

end Stencil
