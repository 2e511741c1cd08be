import Mathlib.Data.List.Nodup
import Mathlib.Tactic.Lemma
import Stencil.Generator.Defaults

/-!
# What the built-in generators extract

A built-in generator goes through a chain of checks, and a candidate that passes them all gets a
descriptor that can be written down at once.  For each of the three generators this module has the
descriptor, and a theorem that says for which candidates it is the result.

The main results are `Holder.extract_eq_ok_iff`, `ValueObject.extract_eq_ok_iff` and
`Sequences.extract_eq_ok_iff`.
-/

namespace Stencil

namespace Extraction

/-- A check followed by more gives a result exactly if the check is passed and the rest gives it. -/
lemma bind_eq_ok_iff {α β : Type} {x : Except Skip α} {f : α → Except Skip β} {r : β} :
    (x >>= f) = .ok r ↔ ∃ a, x = .ok a ∧ f a = .ok r := by
  cases x with
  | error skip =>
    constructor
    · intro h
      cases h
    · rintro ⟨a, h, -⟩
      cases h
  | ok a =>
    constructor
    · exact fun h => ⟨a, rfl, h⟩
    · rintro ⟨b, h, hf⟩
      cases h
      exact hf

end Extraction

namespace Generator

variable {c : Candidate}

lemma requireTypeName_eq_ok_iff {u : Unit} :
    requireTypeName c = .ok u ↔ isTypeName c.name = true := by
  simp [requireTypeName]

lemma onlyOne_eq_ok_iff {α : Type} {l : List α} {x : α} : onlyOne l = .ok x ↔ l = [x] := by
  rcases l with _ | ⟨y, _ | ⟨z, l⟩⟩ <;> simp [onlyOne]

end Generator

/-! ## The markers of a family -/

namespace Candidate

variable {c : Candidate}

/-- If a family's markers are those that something is read off, and they are made from it, they are
made from all that is read off a candidate's markers. -/
lemma map_filterMap_eq_markersIn {α : Type} {read : Marker → Option α} {make : α → Marker}
    {family : Family}
    (hread : ∀ m, (read m).map make = if m.family == family then some m else none) :
    (c.markers.filterMap read).map make = c.markersIn family := by
  rw [markersIn, List.map_filterMap, ← List.filterMap_eq_filter]
  congr 1
  funext m
  rw [hread, Option.guard]

lemma map_holdings (c : Candidate) : c.holdings.map Marker.holder = c.markersIn .holder :=
  map_filterMap_eq_markersIn fun m => by cases m <;> rfl

lemma map_wrappings (c : Candidate) :
    c.wrappings.map Marker.valueObject = c.markersIn .valueObject :=
  map_filterMap_eq_markersIn fun m => by cases m <;> rfl

lemma holdings_eq_singleton_iff {h : Holding} :
    c.holdings = [h] ↔ c.markersIn .holder = [.holder h] := by
  rw [← map_holdings]
  exact ((List.map_injective_iff.2 fun _ _ => Marker.holder.inj).eq_iff' rfl).symm

lemma wrappings_eq_singleton_iff {w : Wrapping} :
    c.wrappings = [w] ↔ c.markersIn .valueObject = [.valueObject w] := by
  rw [← map_wrappings]
  exact ((List.map_injective_iff.2 fun _ _ => Marker.valueObject.inj).eq_iff' rfl).symm

/-- The markers for collectors have nothing to tell them apart. -/
lemma exists_markersIn_sequence_iff :
    (∃ m, c.markersIn .sequence = [m]) ↔ c.markersIn .sequence = [.sequenceCollector] := by
  constructor
  · rintro ⟨m, hm⟩
    have hmem : m ∈ c.markersIn .sequence := by
      rw [hm]
      exact List.mem_singleton_self m
    have hfamily := (List.mem_filter.1 hmem).2
    cases m with
    | sequenceCollector => exact hm
    | holder holding => cases hfamily
    | valueObject wrapping => cases hfamily
  · exact fun h => ⟨_, h⟩

end Candidate

/-! ## Holders -/

namespace Holder

variable {c : Candidate} {o : Options} {d : Descriptor}

/-- The kind of the holder for what it holds. -/
def kindOf : Holding → Kind
  | .result .. => .resultHolder
  | .option _ => .optionHolder
  | .cases _ => .multiResultHolder

/-- What a holder binds for what it holds. -/
def pairsOf (f : Filler) (c : Candidate) : Holding → List (Key × Option String)
  | .result ok err => [(.ok, some ok), (.err, some err)]
  | .option value => [(.value, some value)]
  | .cases types => casesPairs f c types

/-- Cases are neither too few nor too many, and of different types. -/
def Sound : Holding → Prop
  | .cases types => fewestCases ≤ types.length ∧ types.length ≤ mostCases ∧ types.Nodup
  | _ => True

/-- The descriptor of a holder. -/
def descriptor (c : Candidate) (o : Options) (h : Holding) : Descriptor :=
  ⟨c.identity, kindOf h, (commonBindings c o).putAll (pairsOf o.filler c h)⟩

lemma requireCases_eq_ok_iff {types : List String} {u : Unit} :
    requireCases types = .ok u ↔ Sound (.cases types) := by
  unfold requireCases Sound
  by_cases hcount : types.length < fewestCases ∨ mostCases < types.length
  · rw [if_pos hcount]
    constructor
    · intro h
      cases h
    · rintro ⟨hfew, hmany, -⟩
      omega
  · rw [if_neg hcount]
    cases hfirst : firstRepeated? [] types with
    | none =>
      have hnodup := (firstRepeated?_eq_none_iff.1 hfirst).1
      exact ⟨fun _ => ⟨by omega, by omega, hnodup⟩, fun _ => rfl⟩
    | some type =>
      constructor
      · intro h
        cases h
      · rintro ⟨-, -, hnodup⟩
        rw [firstRepeated?_eq_none_iff.2 ⟨hnodup, fun _ _ => List.not_mem_nil⟩] at hfirst
        cases hfirst

lemma describe_eq_ok_iff {h : Holding} {r : Kind × List (Key × Option String)} :
    describe c o h = .ok r ↔ Sound h ∧ r = (kindOf h, pairsOf o.filler c h) := by
  cases h with
  | result ok err => simp [describe, Sound, kindOf, pairsOf, eq_comm]
  | option value => simp [describe, Sound, kindOf, pairsOf, eq_comm]
  | cases types =>
    rw [describe, Extraction.bind_eq_ok_iff]
    constructor
    · rintro ⟨u, hcases, hr⟩
      cases hr
      exact ⟨requireCases_eq_ok_iff.1 hcases, rfl⟩
    · rintro ⟨hsound, rfl⟩
      exact ⟨(), requireCases_eq_ok_iff.2 hsound, rfl⟩

/-- A candidate gets a holder exactly if its name is one of a type and it has one marker for a
holder, with cases that are sound if there are any. -/
theorem extract_eq_ok_iff :
    extract c o = .ok d ↔
      Generator.isTypeName c.name = true ∧
        ∃ h, c.markersIn .holder = [.holder h] ∧ Sound h ∧ d = descriptor c o h := by
  simp only [extract, Extraction.bind_eq_ok_iff, Generator.requireTypeName_eq_ok_iff,
    Generator.onlyOne_eq_ok_iff, describe_eq_ok_iff, Candidate.holdings_eq_singleton_iff]
  constructor
  · rintro ⟨u, hname, h, hmarkers, r, ⟨hsound, rfl⟩, hd⟩
    cases hd
    exact ⟨hname, h, hmarkers, hsound, rfl⟩
  · rintro ⟨hname, h, hmarkers, hsound, rfl⟩
    exact ⟨(), hname, h, hmarkers, _, ⟨hsound, rfl⟩, rfl⟩

end Holder

/-! ## Value objects -/

namespace ValueObject

variable {c : Candidate} {o : Options} {d : Descriptor}

/-- The descriptor of a value object. -/
def descriptor (c : Candidate) (o : Options) (w : Wrapping) : Descriptor :=
  ⟨c.identity, kind w, (partBindings c o w).put .commonImpls (some (commonParts c o w))⟩

lemma requireInner_eq_ok_iff {w : Wrapping} {u : Unit} :
    requireInner w = .ok u ↔ Text.allBlank w.inner = false := by
  simp [requireInner]

/-- A candidate gets a value object exactly if its name is one of a type and it has one marker for
a value object, with an inner type that is not blank. -/
theorem extract_eq_ok_iff :
    extract c o = .ok d ↔
      Generator.isTypeName c.name = true ∧
        ∃ w, c.markersIn .valueObject = [.valueObject w] ∧ Text.allBlank w.inner = false ∧
          d = descriptor c o w := by
  simp only [extract, Extraction.bind_eq_ok_iff, Generator.requireTypeName_eq_ok_iff,
    Generator.onlyOne_eq_ok_iff, requireInner_eq_ok_iff, Candidate.wrappings_eq_singleton_iff]
  constructor
  · rintro ⟨u, hname, w, hmarkers, v, hinner, hd⟩
    cases hd
    exact ⟨hname, w, hmarkers, hinner, rfl⟩
  · rintro ⟨hname, w, hmarkers, hinner, rfl⟩
    exact ⟨(), hname, w, hmarkers, (), hinner, rfl⟩

end ValueObject

/-! ## Sequence collectors -/

namespace Sequences

variable {c : Candidate} {o : Options} {d : Descriptor}

/-- What tells sequences apart: schema and name. -/
def label (s : NumberSequence) : Option String × String := (s.schema, s.name)

/-- There are sequences, all with a name and a step, and no two with the same label. -/
structure Sound (sequences : List NumberSequence) : Prop where
  nonempty : sequences ≠ []
  named : ∀ s ∈ sequences, isName s.name = true
  stepped : ∀ s ∈ sequences, s.increment ≠ 0
  distinct : (sequences.map label).Nodup

/-- The descriptor of a sequence collector. -/
def descriptor (c : Candidate) (o : Options) : Descriptor :=
  ⟨c.identity, .sequenceCollector,
    (Generator.baseBindings c o).put .entries (some (rows o.filler c))⟩

lemma defect?_eq_none_iff {seen : List (Option String × String)} {s : NumberSequence} :
    defect? seen s = none ↔ isName s.name = true ∧ s.increment ≠ 0 ∧ label s ∉ seen := by
  unfold defect? label
  by_cases hname : isName s.name = true
  · by_cases hstep : s.increment = 0
    · simp [hname, hstep]
    · simp [hname, hstep]
  · simp [hname]

lemma firstDefect?_eq_none_iff {seen : List (Option String × String)}
    {sequences : List NumberSequence} :
    firstDefect? seen sequences = none ↔
      (∀ s ∈ sequences, isName s.name = true ∧ s.increment ≠ 0) ∧
        (sequences.map label).Nodup ∧ ∀ s ∈ sequences, label s ∉ seen := by
  induction sequences generalizing seen with
  | nil => simp [firstDefect?]
  | cons s rest ih =>
    rw [firstDefect?, Option.or_eq_none_iff, defect?_eq_none_iff, ih, List.map_cons,
      List.nodup_cons, List.forall_mem_cons, List.forall_mem_cons]
    simp only [List.mem_cons, not_or, List.mem_map, not_exists, not_and]
    constructor
    · rintro ⟨⟨hname, hstep, hseen⟩, hrest, hnodup, hlabels⟩
      exact ⟨⟨⟨hname, hstep⟩, hrest⟩, ⟨fun t ht => (hlabels t ht).1, hnodup⟩, hseen,
        fun t ht => (hlabels t ht).2⟩
    · rintro ⟨⟨⟨hname, hstep⟩, hrest⟩, ⟨hfresh, hnodup⟩, hseen, hlabels⟩
      exact ⟨⟨hname, hstep, hseen⟩, hrest, hnodup, fun t ht => ⟨hfresh t ht, hlabels t ht⟩⟩

lemma requireSound_eq_ok_iff {sequences : List NumberSequence} {u : Unit} :
    requireSound sequences = .ok u ↔ Sound sequences := by
  unfold requireSound
  by_cases hnil : sequences = []
  · rw [if_pos hnil]
    constructor
    · intro h
      cases h
    · exact fun h => absurd hnil h.nonempty
  · rw [if_neg hnil]
    cases hfirst : firstDefect? [] sequences with
    | none =>
      obtain ⟨hall, hnodup, -⟩ := firstDefect?_eq_none_iff.1 hfirst
      exact ⟨fun _ => ⟨hnil, fun s hs => (hall s hs).1, fun s hs => (hall s hs).2, hnodup⟩,
        fun _ => rfl⟩
    | some defect =>
      constructor
      · intro h
        cases h
      · intro h
        have hnone := firstDefect?_eq_none_iff.2
          ⟨fun s hs => ⟨h.named s hs, h.stepped s hs⟩, h.distinct, fun _ _ => List.not_mem_nil⟩
        rw [hfirst] at hnone
        cases hnone

/-- A candidate gets a sequence collector exactly if its name is one of a type, it has one marker
for a collector, and its sequences are sound. -/
theorem extract_eq_ok_iff :
    extract c o = .ok d ↔
      Generator.isTypeName c.name = true ∧ c.markersIn .sequence = [.sequenceCollector] ∧
        Sound c.sequences ∧ d = descriptor c o := by
  simp only [extract, Extraction.bind_eq_ok_iff, Generator.requireTypeName_eq_ok_iff,
    Generator.onlyOne_eq_ok_iff, requireSound_eq_ok_iff,
    ← Candidate.exists_markersIn_sequence_iff]
  constructor
  · rintro ⟨u, hname, m, hmarkers, v, hsound, hd⟩
    cases hd
    exact ⟨hname, ⟨m, hmarkers⟩, hsound, rfl⟩
  · rintro ⟨hname, ⟨m, hmarkers⟩, hsound, rfl⟩
    exact ⟨(), hname, m, hmarkers, (), hsound, rfl⟩

end Sequences

/-! ## All built-in generators -/

namespace Generator

variable {g : Generator} {c : Candidate} {o : Options} {d : Descriptor}

lemma mem_defaults_iff :
    g ∈ defaults ↔ g = Holder.generator ∨ g = ValueObject.generator ∨ g = Sequences.generator := by
  simp [defaults]

/-- What a built-in generator describes goes by the identity of the candidate, which has the name
of a type. -/
theorem identity_of_extract_eq_ok (hg : g ∈ defaults) (h : g.extract c o = .ok d) :
    isTypeName c.name = true ∧ d.identity = c.identity := by
  rcases mem_defaults_iff.1 hg with rfl | rfl | rfl
  · obtain ⟨hname, h, -, -, rfl⟩ := Holder.extract_eq_ok_iff.1 h
    exact ⟨hname, rfl⟩
  · obtain ⟨hname, w, -, -, rfl⟩ := ValueObject.extract_eq_ok_iff.1 h
    exact ⟨hname, rfl⟩
  · obtain ⟨hname, -, -, rfl⟩ := Sequences.extract_eq_ok_iff.1 h
    exact ⟨hname, rfl⟩

end Generator

end Stencil
