import Stencil.Digest.Xxh64
import Stencil.Proofs.Pipeline.History
import Stencil.Proofs.Repeated

/-!
# When a pass ends in a conflict

A pass goes through places: the first candidate with each generator, then the second one, and so on.
It ends in a conflict exactly if there is a place with the key of an earlier place, and the conflict
names the key of the first such place.  Since generators have distinct names, both places are of one
generator, with two candidates that it describes artifacts of the same identity for.  What two
generators describe is never in conflict, nor is it with what the pipeline keeps.

The main results are

* `Pipeline.repeated_eq`: a survey looks for the first repeated key in the order of the places;
* `Pipeline.run_eq_error_iff`: the conflict that a pass ends in;
* `Pipeline.conflict_exact`: when there is one, and which it is.
-/

namespace Stencil

namespace Pipeline

/-! ## Places -/

/-- A place in the course of a pass: the numbers of a candidate and of a generator. -/
structure Place (p : Pipeline) (candidates : List Candidate) where
  candidate : Fin candidates.length
  generator : Fin p.generators.length

/-- A pass comes to a place before another one: to its candidate or, of the same candidate, to its
generator. -/
def Place.Before {p : Pipeline} {candidates : List Candidate} (a b : p.Place candidates) : Prop :=
  a.candidate < b.candidate ∨ a.candidate = b.candidate ∧ a.generator < b.generator

variable {p : Pipeline} {candidates : List Candidate}

instance (a b : p.Place candidates) : Decidable (a.Before b) :=
  inferInstanceAs (Decidable (_ ∨ _))

instance : @Std.Irrefl (p.Place candidates) Place.Before where
  irrefl a h := by
    rcases h with h | ⟨-, h⟩
    · exact Fin.lt_irrefl _ h
    · exact Fin.lt_irrefl _ h

instance : IsTrans (p.Place candidates) Place.Before where
  trans a b c hab hbc := by
    rcases hab with hab | ⟨hab, hab'⟩ <;> rcases hbc with hbc | ⟨hbc, hbc'⟩
    · exact .inl (Fin.lt_trans hab hbc)
    · exact .inl (hbc ▸ hab)
    · exact .inl (hab ▸ hbc)
    · exact .inr ⟨hab.trans hbc, Fin.lt_trans hab' hbc'⟩

/-- What the generator of a place finds out about its candidate. -/
def finding (p : Pipeline) {candidates : List Candidate} (place : p.Place candidates) : Finding :=
  let g := p.generators.get place.generator
  ⟨g, g.extract (candidates.get place.candidate) p.options⟩

/-- The key of the artifact that the generator of a place describes for its candidate. -/
def key? (p : Pipeline) {candidates : List Candidate} (place : p.Place candidates) :
    Option ArtifactKey := (p.finding place).draft?.map Draft.key

lemma key?_eq_some_iff {place : p.Place candidates} {key : ArtifactKey} :
    p.key? place = some key ↔
      ∃ d, (p.generators.get place.generator).extract (candidates.get place.candidate) p.options =
          .ok d ∧ key = ⟨(p.generators.get place.generator).name, d.identity⟩ := by
  simp only [key?, Option.map_eq_some_iff, Finding.draft?_eq_some_iff]
  constructor
  · rintro ⟨⟨g, d⟩, hfinding, rfl⟩
    obtain ⟨rfl, hextract⟩ := Finding.mk.inj hfinding
    exact ⟨d, hextract, rfl⟩
  · rintro ⟨d, hextract, rfl⟩
    exact ⟨⟨_, d⟩, congrArg (Finding.mk _) hextract, rfl⟩

/-- The places in the order in which a pass comes to them. -/
def places (p : Pipeline) (candidates : List Candidate) : List (p.Place candidates) :=
  (List.finRange candidates.length).flatMap fun i =>
    (List.finRange p.generators.length).map fun k => ⟨i, k⟩

lemma mem_places (place : p.Place candidates) : place ∈ p.places candidates :=
  List.mem_flatMap.2 ⟨place.candidate, List.mem_finRange _,
    List.mem_map.2 ⟨place.generator, List.mem_finRange _, rfl⟩⟩

lemma pairwise_places (p : Pipeline) (candidates : List Candidate) :
    (p.places candidates).Pairwise Place.Before := by
  rw [places, List.pairwise_flatMap]
  constructor
  · intro i _
    rw [List.pairwise_map]
    exact (List.pairwise_lt_finRange _).imp fun h => .inr ⟨rfl, h⟩
  · refine (List.pairwise_lt_finRange _).imp fun h a ha b hb => ?_
    obtain ⟨k, -, rfl⟩ := List.mem_map.1 ha
    obtain ⟨l, -, rfl⟩ := List.mem_map.1 hb
    exact .inl h

/-- The findings of a pass are made place by place. -/
lemma map_finding_places (p : Pipeline) (candidates : List Candidate) :
    (p.places candidates).map p.finding = p.findings candidates := by
  have hgenerators : ∀ c, p.generators.map (fun g => Finding.mk g (g.extract c p.options)) =
      (List.finRange p.generators.length).map fun k =>
        ⟨p.generators.get k, (p.generators.get k).extract c p.options⟩ := fun c => by
    conv_lhs => rw [← List.map_get_finRange p.generators, List.map_map]
    rfl
  conv_rhs => rw [findings, ← List.map_get_finRange candidates, List.flatMap_map]
  simp only [places, List.map_flatMap, List.map_map, hgenerators]
  rfl

/-- A survey looks for the first repeated key in the order of the places. -/
lemma repeated_eq (p : Pipeline) (candidates : List Candidate) :
    (p.survey candidates).repeated =
      firstRepeated? [] ((p.places candidates).filterMap p.key?) := by
  rw [survey, Survey.repeated_eq, ← map_finding_places, List.filterMap_map, List.map_filterMap]
  rfl

/-! ## Repeated keys -/

/-- The key at a place is the key at an earlier place. -/
def RepeatsAt (p : Pipeline) {candidates : List Candidate} (place : p.Place candidates)
    (key : ArtifactKey) : Prop :=
  p.key? place = some key ∧ ∃ earlier, Place.Before earlier place ∧ p.key? earlier = some key

/-- The first repeated key is the one at the first place whose key is repeated. -/
lemma repeated_eq_some_iff {key : ArtifactKey} :
    (p.survey candidates).repeated = some key ↔
      ∃ place : p.Place candidates, p.RepeatsAt place key ∧
        ∀ earlier, Place.Before earlier place → ∀ key', ¬ p.RepeatsAt earlier key' := by
  rw [repeated_eq, firstRepeated?_filterMap_eq_some_iff (p.pairwise_places candidates)]
  simp only [mem_places, true_and, forall_const, RepeatsAt, not_and, not_exists, ne_eq]

/-- Different places of one key are of one generator, and of different candidates. -/
lemma candidate_ne_of_key?_eq {a b : p.Place candidates} {key : ArtifactKey}
    (ha : p.key? a = some key) (hb : p.key? b = some key) (hne : a ≠ b) :
    a.generator = b.generator ∧ a.candidate ≠ b.candidate := by
  obtain ⟨d, -, rfl⟩ := key?_eq_some_iff.1 ha
  obtain ⟨e, -, hkey⟩ := key?_eq_some_iff.1 hb
  have hsame := eq_of_name_eq (List.get_mem _ _) (List.get_mem _ _) (ArtifactKey.mk.inj hkey).1
  have hgenerator : a.generator = b.generator := p.distinct.of_map.get_inj_iff.1 hsame
  refine ⟨hgenerator, fun hcandidate => hne ?_⟩
  obtain ⟨i, k⟩ := a
  obtain ⟨j, l⟩ := b
  obtain rfl : i = j := hcandidate
  obtain rfl : k = l := hgenerator
  rfl

/-- There is a repeated key exactly if some generator describes artifacts of one identity for two
candidates. -/
lemma repeated_ne_none_iff :
    (p.survey candidates).repeated ≠ none ↔
      ∃ g ∈ p.generators, ∃ i j : Fin candidates.length, i ≠ j ∧
        ∃ d d', g.extract (candidates.get i) p.options = .ok d ∧
          g.extract (candidates.get j) p.options = .ok d' ∧ d.identity = d'.identity := by
  rw [repeated_eq, Ne, firstRepeated?_eq_none_iff,
    nodup_filterMap_iff (p.pairwise_places candidates)]
  simp only [mem_places, forall_const, List.not_mem_nil, not_false_eq_true, implies_true, and_true,
    not_forall, not_not, exists_prop, ne_eq]
  constructor
  · rintro ⟨a, b, hba, key, ha, hb⟩
    have hne : a ≠ b := fun heq => irrefl_of Place.Before a (heq ▸ hba)
    obtain ⟨hgenerator, hcandidate⟩ := candidate_ne_of_key?_eq ha hb hne
    obtain ⟨d, hd, rfl⟩ := key?_eq_some_iff.1 ha
    obtain ⟨e, he, hkey⟩ := key?_eq_some_iff.1 hb
    rw [← hgenerator] at he
    exact ⟨_, List.get_mem _ a.generator, a.candidate, b.candidate, hcandidate, d, e, hd, he,
      (ArtifactKey.mk.inj hkey).2⟩
  · rintro ⟨g, hg, i, j, hij, d, e, hd, he, hidentity⟩
    obtain ⟨k, rfl⟩ := List.get_of_mem hg
    have hi : p.key? ⟨i, k⟩ = some ⟨(p.generators.get k).name, d.identity⟩ :=
      key?_eq_some_iff.2 ⟨d, hd, rfl⟩
    have hj : p.key? ⟨j, k⟩ = some ⟨(p.generators.get k).name, d.identity⟩ :=
      key?_eq_some_iff.2 ⟨e, he, by rw [hidentity]⟩
    rcases Fin.lt_or_lt_of_ne hij with hlt | hlt
    · exact ⟨⟨j, k⟩, ⟨i, k⟩, .inl hlt, _, hj, hi⟩
    · exact ⟨⟨i, k⟩, ⟨j, k⟩, .inl hlt, _, hi, hj⟩

/-! ## How a pass fails -/

section Main

variable [TextHash]

/-- A pass fails only in a conflict about a repeated key. -/
lemma run_eq_error_iff {memo : ScanMemo} {e : Conflict} :
    (p.run memo candidates).outcome = .error e ↔
      ∃ key, (p.survey candidates).repeated = some key ∧ e = .repeatedArtifact key := by
  cases hrepeated : (p.survey candidates).repeated with
  | some key =>
    rw [(run_of_repeated hrepeated memo).1]
    simp [eq_comm]
  | none =>
    obtain ⟨⟨warnings, stats, hok⟩, -⟩ := run_of_distinct hrepeated memo
    rw [hok]
    simp

/-- **Conflicts are exact.**  Whatever a pipeline keeps, a pass fails exactly if one of the
generators describes artifacts of one identity for two of the candidates.  The conflict names
generator and identity at the first place, in the order in which the pass comes to them, whose
generator and identity are those of an earlier place.  What is kept or remembered makes no
difference. -/
theorem conflict_exact (p : Pipeline) (memo : ScanMemo) (candidates : List Candidate) :
    ((∃ e, (p.run memo candidates).outcome = .error e) ↔
        ∃ g ∈ p.generators, ∃ i j : Fin candidates.length, i ≠ j ∧
          ∃ d d', g.extract (candidates.get i) p.options = .ok d ∧
            g.extract (candidates.get j) p.options = .ok d' ∧ d.identity = d'.identity) ∧
      (∀ e, (p.run memo candidates).outcome = .error e ↔
        ∃ (place : p.Place candidates) (key : ArtifactKey), e = .repeatedArtifact key ∧
          p.RepeatsAt place key ∧
            ∀ earlier, Place.Before earlier place → ∀ key', ¬ p.RepeatsAt earlier key') ∧
      ∀ (kept : Table ArtifactKey Artifact) (under : Option Digest) (memo' : ScanMemo) e,
        ({ p with cache := kept, cachedUnder := under }.run memo' candidates).outcome = .error e ↔
          (p.run memo candidates).outcome = .error e := by
  refine ⟨?_, fun e => ?_, fun kept under memo' e => ?_⟩
  · rw [← repeated_ne_none_iff, Option.ne_none_iff_exists']
    simp only [run_eq_error_iff]
    constructor
    · rintro ⟨-, key, hrepeated, -⟩
      exact ⟨key, hrepeated⟩
    · rintro ⟨key, hrepeated⟩
      exact ⟨_, key, hrepeated, rfl⟩
  · simp only [run_eq_error_iff, repeated_eq_some_iff]
    constructor
    · rintro ⟨key, ⟨place, hplace⟩, he⟩
      exact ⟨place, key, he, hplace⟩
    · rintro ⟨place, key, he, hplace⟩
      exact ⟨key, ⟨place, hplace⟩, he⟩
  · -- a survey looks at generators and options only
    rw [run_eq_error_iff, run_eq_error_iff]
    rfl

end Main

/-- Two generators describe artifacts of one identity, and a pass has been run before: then the
same candidates are in no conflict, and if they come twice, the conflict is about the first artifact
of the candidate that is repeated first. -/
theorem conflict_exact_twice :
    let c : Candidate :=
      { name := "Maybe", markers := [.holder (.option "u8"), .valueObject ⟨"u8", true⟩] }
    let d : Candidate := { name := "Email", markers := [.valueObject ⟨"String", false⟩] }
    let p := (withDefaults {} {}).after [⟨.run [c, d], .empty⟩]
    (∃ report, (p.run .empty [c, d]).outcome = .ok report) ∧
      (p.run .empty [d, c, c, d]).outcome = .error (.repeatedArtifact ⟨"holder", "Maybe"⟩) := by
  intro c d p
  constructor
  · have hrepeated : (p.survey [c, d]).repeated = none := by decide +kernel
    obtain ⟨⟨warnings, stats, hok⟩, -⟩ := run_of_distinct hrepeated .empty
    exact ⟨_, hok⟩
  · obtain ⟨-, hfirst, -⟩ := conflict_exact p .empty [d, c, c, d]
    let place (i : Fin 4) (k : Fin p.generators.length) : p.Place [d, c, c, d] := ⟨i, k⟩
    let holders : Fin p.generators.length := ⟨0, by decide +kernel⟩
    have hrepeats : p.RepeatsAt (place 2 holders) ⟨"holder", "Maybe"⟩ :=
      ⟨by decide +kernel, place 1 holders, by decide +kernel, by decide +kernel⟩
    have hdistinct : ∀ i k j l, (place i k).Before (place 2 holders) →
        (place j l).Before (place i k) → p.key? (place j l) = p.key? (place i k) →
          p.key? (place i k) = none := by
      decide +kernel
    refine (hfirst _).2 ⟨_, _, rfl, hrepeats, ?_⟩
    rintro ⟨i, k⟩ hbefore key ⟨hkey, ⟨j, l⟩, hbefore', hkey'⟩
    have hnone := hdistinct i k j l hbefore hbefore' (hkey'.trans hkey.symm)
    exact Option.some_ne_none _ (hkey.symm.trans hnone)

end Pipeline

end Stencil
