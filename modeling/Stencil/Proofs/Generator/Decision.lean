import Stencil.Proofs.Artifact.Wording
import Stencil.Proofs.Generator.Contents
import Stencil.Proofs.Repeated

/-!
# What the built-in generators decide

Each built-in generator goes through the same chain: the name of the candidate, the number of
markers of its family, and then what the one marker asks for.  The chain is written once for all
families (`Family.extract_eq`).  What may be wrong with a marker is a relation of its own
(`Marker.Fault`), which knows no order of checks: of several things that are wrong, the conditions
of each case leave one.  The decision on a candidate is a relation in the same way
(`Family.Decides`).

The main result is `Family.extract_decided`: the decision of a built-in generator is the one that
the relation gives, the text of a reason tells what is wrong, and nothing but the name, the markers
of the family and, for collectors, the sequences has a part in the decision.
-/

namespace Stencil

/-! ## Names -/

namespace Generator

/-- Letters, numbers and low lines, and nothing else. -/
def HasNameChars (text : String) : Prop :=
  ∀ c ∈ text.toList, Text.isAlphanumeric c = true ∨ c = '_'

/-- A word of letters, numbers and low lines that starts with a letter or a low line. -/
def IsTypeWord (name : String) : Prop :=
  HasNameChars name ∧
    ∃ c rest, name.toList = c :: rest ∧ (Text.isAlphabetic c = true ∨ c = '_')

lemma all_isNameChar_iff {text : String} :
    text.toList.all isNameChar = true ↔ HasNameChars text := by
  simp [HasNameChars, isNameChar]

lemma isTypeName_iff {name : String} : isTypeName name = true ↔ IsTypeWord name := by
  unfold isTypeName IsTypeWord
  rw [← all_isNameChar_iff]
  cases name.toList with
  | nil => simp
  | cons c rest => simp [and_comm]

end Generator

/-! ## What may be wrong with a marker -/

namespace Sequences

/-- A word of letters, numbers and low lines. -/
def IsSequenceWord (name : String) : Prop := name ≠ "" ∧ Generator.HasNameChars name

lemma isName_iff {name : String} : isName name = true ↔ IsSequenceWord name := by
  rw [isName, Bool.and_eq_true, Generator.all_isNameChar_iff, bne_iff_ne, IsSequenceWord]

/-- What is wrong with a sequence that is declared behind others: its name is no word; or else it
stays where it is; or else one of the others has its schema and its name. -/
inductive Fault (earlier : List NumberSequence) (s : NumberSequence) : Defect → Prop where
  | name (hname : ¬ IsSequenceWord s.name) : Fault earlier s (.sequenceName s.name)
  | increment (hname : IsSequenceWord s.name) (hstep : s.increment = 0) :
      Fault earlier s (.zeroIncrement s.name)
  | repeated (hname : IsSequenceWord s.name) (hstep : s.increment ≠ 0) {t : NumberSequence}
      (ht : t ∈ earlier) (hlabel : label t = label s) : Fault earlier s (.repeatedSequence s.name)

end Sequences

namespace Marker

/-- The kind of the artifact that a marker asks for. -/
def kind : Marker → Kind
  | holder (.result ..) => .resultHolder
  | holder (.option _) => .optionHolder
  | holder (.cases _) => .multiResultHolder
  | valueObject ⟨_, false⟩ => .valueObject
  | valueObject ⟨_, true⟩ => .validatableValueObject
  | sequenceCollector => .sequenceCollector

/-- What is wrong with what a marker asks for, where some sequences are declared: the number of the
cases of a holder; or else the first case that is equal to an earlier one; an inner type that is
white space; no sequences; or else the first sequence with which something is wrong. -/
inductive Fault (sequences : List NumberSequence) : Marker → Defect → Prop where
  | caseCount {types : List String} (hcount : ¬ (2 ≤ types.length ∧ types.length ≤ 8)) :
      Fault sequences (holder (.cases types)) (.caseCount types.length)
  | repeatedCase {types earlier later : List String} {type : String}
      (hcount : 2 ≤ types.length ∧ types.length ≤ 8) (htypes : types = earlier ++ type :: later)
      (hearlier : earlier.Nodup) (hmem : type ∈ earlier) :
      Fault sequences (holder (.cases types)) (.repeatedCase type)
  | blankInner {w : Wrapping} (hblank : ∀ c ∈ w.inner.toList, Text.isBlank c = true) :
      Fault sequences (valueObject w) .blankInner
  | noSequences (hnil : sequences = []) : Fault sequences sequenceCollector .noSequences
  | sequence {earlier later : List NumberSequence} {s : NumberSequence} {d : Defect}
      (hsequences : sequences = earlier ++ s :: later)
      (hearlier : ∀ front t back, earlier = front ++ t :: back → ∀ e, ¬ Sequences.Fault front t e)
      (hfault : Sequences.Fault earlier s d) : Fault sequences sequenceCollector d

/-- The checks on what a marker asks for. -/
def check (sequences : List NumberSequence) : Marker → Except Skip Unit
  | holder (.cases types) => Holder.requireCases types
  | holder _ => .ok ()
  | valueObject w => ValueObject.requireInner w
  | sequenceCollector => Sequences.requireSound sequences

end Marker

/-! ## The checks on a marker find what is wrong -/

namespace Sequences

lemma defect?_eq_some_iff {earlier : List NumberSequence} {s : NumberSequence} {d : Defect} :
    defect? (earlier.map label).reverse s = some d ↔ Fault earlier s d := by
  have hseen : (s.schema, s.name) ∈ earlier.map label ↔ ∃ t ∈ earlier, label t = label s :=
    List.mem_map
  constructor
  · intro h
    simp only [defect?, List.mem_reverse, hseen] at h
    split at h
    · cases h
      exact .name fun hword => by simp_all [isName_iff.2 hword]
    · have hword : IsSequenceWord s.name := isName_iff.1 (by simp_all)
      split at h
      · cases h
        exact .increment hword (by assumption)
      · split at h
        · cases h
          obtain ⟨t, ht, hlabel⟩ := ‹∃ t ∈ earlier, label t = label s›
          exact .repeated hword (by assumption) ht hlabel
        · cases h
  · intro h
    cases h with
    | name hname => simp [defect?, mt isName_iff.1 hname]
    | increment hname hstep => simp [defect?, isName_iff.2 hname, hstep]
    | repeated hname hstep ht hlabel =>
      simp [defect?, isName_iff.2 hname, hstep, hseen.2 ⟨_, ht, hlabel⟩]

lemma firstDefect?_eq_some_iff {sequences : List NumberSequence} {d : Defect} :
    firstDefect? [] sequences = some d ↔
      ∃ earlier s later, sequences = earlier ++ s :: later ∧ firstDefect? [] earlier = none ∧
        Fault earlier s d := by
  rw [search_eq_some_iff defect? label (fun _ => rfl) fun _ _ _ => rfl]
  simp only [List.append_nil, defect?_eq_some_iff]

/-- A search that finds nothing has seen that nothing is wrong with any of the sequences. -/
lemma firstDefect?_eq_none_iff_forall {sequences : List NumberSequence} :
    firstDefect? [] sequences = none ↔
      ∀ front t back, sequences = front ++ t :: back → ∀ d, ¬ Fault front t d := by
  constructor
  · rintro h front t back rfl d hfault
    obtain ⟨hall, hnodup, -⟩ := firstDefect?_eq_none_iff.1 h
    obtain ⟨hname, hstep⟩ := hall t (by simp)
    cases hfault with
    | name hno => exact hno (isName_iff.1 hname)
    | increment _ hzero => exact hstep hzero
    | @repeated _ _ t' ht' hlabel =>
      rw [List.map_append, List.map_cons] at hnodup
      have hfresh := (List.nodup_middle.1 hnodup).notMem
      exact hfresh (List.mem_append_left _ (List.mem_map.2 ⟨t', ht', hlabel⟩))
  · intro h
    cases hfirst : firstDefect? [] sequences with
    | none => rfl
    | some d =>
      obtain ⟨earlier, s, later, hsequences, -, hfault⟩ := firstDefect?_eq_some_iff.1 hfirst
      exact absurd hfault (h earlier s later hsequences d)

end Sequences

namespace Marker

variable {sequences : List NumberSequence} {m : Marker}

lemma outOfBounds_iff {types : List String} :
    (types.length < fewestCases ∨ mostCases < types.length) ↔
      ¬ (2 ≤ types.length ∧ types.length ≤ 8) := by
  unfold fewestCases mostCases
  omega

lemma check_eq_error_of_fault {d : Defect} (h : m.Fault sequences d) :
    m.check sequences = .error (.invalidFacts d) := by
  cases h with
  | caseCount hcount => rw [check, Holder.requireCases, if_pos (outOfBounds_iff.2 hcount)]
  | repeatedCase hcount htypes hearlier hmem =>
    rw [check, Holder.requireCases, if_neg (mt outOfBounds_iff.1 (not_not.2 hcount)),
      firstRepeated?_eq_some_iff.2 ⟨_, _, htypes, hearlier, hmem⟩]
  | blankInner hblank =>
    have hall : Text.allBlank _ = true := List.all_eq_true.2 hblank
    rw [check, ValueObject.requireInner, if_pos hall]
  | noSequences hnil => rw [check, Sequences.requireSound, if_pos hnil]
  | sequence hsequences hearlier hfault =>
    rw [check, Sequences.requireSound, if_neg (by simp [hsequences]),
      Sequences.firstDefect?_eq_some_iff.2 ⟨_, _, _, hsequences,
        Sequences.firstDefect?_eq_none_iff_forall.2 hearlier, hfault⟩]

lemma exists_fault_of_check_eq_error {s : Skip} (h : m.check sequences = .error s) :
    ∃ d, s = .invalidFacts d ∧ m.Fault sequences d := by
  rcases m with (_ | _ | types) | w | _
  · cases h
  · cases h
  · rw [check, Holder.requireCases] at h
    split at h
    next hcount =>
      cases h
      exact ⟨_, rfl, .caseCount (outOfBounds_iff.1 hcount)⟩
    next hcount =>
      have hbounds := not_not.1 (mt outOfBounds_iff.2 hcount)
      split at h
      next type hfirst =>
        cases h
        obtain ⟨earlier, later, htypes, hearlier, hmem⟩ := firstRepeated?_eq_some_iff.1 hfirst
        exact ⟨_, rfl, .repeatedCase hbounds htypes hearlier hmem⟩
      next => cases h
  · rw [check, ValueObject.requireInner] at h
    split at h
    next hblank =>
      cases h
      exact ⟨_, rfl, .blankInner (List.all_eq_true.1 hblank)⟩
    next => cases h
  · rw [check, Sequences.requireSound] at h
    split at h
    next hnil =>
      cases h
      exact ⟨_, rfl, .noSequences hnil⟩
    next =>
      split at h
      next d hfirst =>
        cases h
        obtain ⟨earlier, s, later, hsequences, hnone, hfault⟩ :=
          Sequences.firstDefect?_eq_some_iff.1 hfirst
        exact ⟨_, rfl, .sequence hsequences
          (Sequences.firstDefect?_eq_none_iff_forall.1 hnone) hfault⟩
      next => cases h

/-- A marker passes its checks exactly if nothing is wrong with it. -/
lemma check_eq_ok_iff : m.check sequences = .ok () ↔ ∀ d, ¬ m.Fault sequences d := by
  cases hcheck : m.check sequences with
  | ok v =>
    refine ⟨fun _ d hfault => ?_, fun _ => rfl⟩
    rw [check_eq_error_of_fault hfault] at hcheck
    cases hcheck
  | error s =>
    obtain ⟨d, -, hfault⟩ := exists_fault_of_check_eq_error hcheck
    constructor
    · rintro ⟨⟩
    · exact fun h => absurd hfault (h d)

/-- Whatever is wrong with a marker is worded here. -/
lemma Fault.exists_phrase {d : Defect} (h : m.Fault sequences d) : ∃ p, d.phrase? = some p := by
  cases h with
  | caseCount => exact ⟨_, rfl⟩
  | repeatedCase => exact ⟨_, rfl⟩
  | blankInner => exact ⟨_, rfl⟩
  | noSequences => exact ⟨_, rfl⟩
  | sequence _ _ hfault => cases hfault <;> exact ⟨_, rfl⟩

lemma kind_descriptor (c : Candidate) (o : Options) (m : Marker) :
    (m.descriptor c o).kind = m.kind := by
  rcases m with (_ | _ | _) | ⟨_, _ | _⟩ | _ <;> rfl

end Marker

/-! ## One chain for all families -/

namespace Generator

lemma onlyOne_map {α β : Type} (f : α → β) (l : List α) :
    onlyOne (l.map f) = (onlyOne l).map f := by
  rcases l with _ | ⟨x, _ | ⟨y, l⟩⟩
  · rfl
  · rfl
  · simp [onlyOne, Except.map]

lemma onlyOne_eq_error_iff {α : Type} {l : List α} {s : Skip} :
    onlyOne l = .error s ↔
      l.length = 0 ∧ s = .noMarker ∨ 2 ≤ l.length ∧ s = .ambiguousMarkers l.length := by
  rcases l with _ | ⟨x, _ | ⟨y, l⟩⟩ <;> simp [onlyOne, eq_comm]

end Generator

namespace Family

variable {family : Family} {c : Candidate} {o : Options}

/-- A built-in generator checks the name, then the number of the markers of its family, then the
one marker. -/
theorem extract_eq (family : Family) (c : Candidate) (o : Options) :
    family.generator.extract c o = (do
      Generator.requireTypeName c
      let m ← Generator.onlyOne (c.markersIn family)
      m.check c.sequences
      return m.descriptor c o) := by
  cases family with
  | holder =>
    show Holder.extract c o = _
    rw [← Candidate.map_holdings, Generator.onlyOne_map, Holder.extract]
    congr 1
    funext _
    cases Generator.onlyOne c.holdings with
    | error s => rfl
    | ok h =>
      rcases h with _ | _ | types
      · rfl
      · rfl
      · show (Holder.describe c o (.cases types) >>= _) = (Holder.requireCases types >>= _)
        rw [Holder.describe]
        cases Holder.requireCases types <;> rfl
  | valueObject =>
    show ValueObject.extract c o = _
    rw [← Candidate.map_wrappings, Generator.onlyOne_map, ValueObject.extract]
    congr 1
    funext _
    cases Generator.onlyOne c.wrappings <;> rfl
  | sequence =>
    show Sequences.extract c o = _
    rw [Sequences.extract]
    congr 1
    funext _
    cases hone : Generator.onlyOne (c.markersIn .sequence) with
    | error s => rfl
    | ok m =>
      -- a marker of this family has nothing to read off
      have hmarkers := Generator.onlyOne_eq_ok_iff.1 hone
      rw [Candidate.exists_markersIn_sequence_iff.1 ⟨m, hmarkers⟩, List.singleton_inj] at hmarkers
      subst hmarkers
      rfl

/-- What the generator of a family decides on a candidate, by its name, the markers of the family
and the declared sequences: a reason to skip it, or the kind of an artifact. -/
inductive Decides (name : String) (markers : List Marker) (sequences : List NumberSequence) :
    Except Skip Kind → Prop where
  | typeName (hname : ¬ Generator.IsTypeWord name) :
      Decides name markers sequences (.error (.invalidFacts (.typeName name)))
  | noMarker (hname : Generator.IsTypeWord name) (hcount : markers.length = 0) :
      Decides name markers sequences (.error .noMarker)
  | ambiguousMarkers (hname : Generator.IsTypeWord name) (hcount : 2 ≤ markers.length) :
      Decides name markers sequences (.error (.ambiguousMarkers markers.length))
  | fault (hname : Generator.IsTypeWord name) {m : Marker} (hone : markers = [m]) {d : Defect}
      (hfault : m.Fault sequences d) : Decides name markers sequences (.error (.invalidFacts d))
  | present (hname : Generator.IsTypeWord name) {m : Marker} (hone : markers = [m])
      (hfaultless : ∀ d, ¬ m.Fault sequences d) : Decides name markers sequences (.ok m.kind)

section Main

variable {name : String} {markers : List Marker} {sequences : List NumberSequence}

/-- There is a decision on every candidate. -/
lemma exists_decides (name : String) (markers : List Marker) (sequences : List NumberSequence) :
    ∃ r, Decides name markers sequences r := by
  by_cases hname : Generator.IsTypeWord name
  · rcases markers with _ | ⟨m, _ | ⟨m', rest⟩⟩
    · exact ⟨_, .noMarker hname rfl⟩
    · by_cases hfault : ∃ d, m.Fault sequences d
      · obtain ⟨d, hd⟩ := hfault
        exact ⟨_, .fault hname rfl hd⟩
      · exact ⟨_, .present hname rfl (not_exists.1 hfault)⟩
    · exact ⟨_, .ambiguousMarkers hname (by simp)⟩
  · exact ⟨_, .typeName hname⟩

lemma map_kind_extract_of_decides {r : Except Skip Kind}
    (h : Decides c.name (c.markersIn family) c.sequences r) :
    (family.generator.extract c o).map Descriptor.kind = r := by
  have hrequire : Generator.IsTypeWord c.name → Generator.requireTypeName c = .ok () :=
    fun hname => Generator.requireTypeName_eq_ok_iff.2 (Generator.isTypeName_iff.2 hname)
  rw [extract_eq]
  cases h with
  | typeName hname =>
    rw [Generator.requireTypeName, if_neg (mt Generator.isTypeName_iff.1 hname)]
    rfl
  | noMarker hname hcount =>
    rw [hrequire hname, Generator.onlyOne_eq_error_iff.2 (.inl ⟨hcount, rfl⟩)]
    rfl
  | ambiguousMarkers hname hcount =>
    rw [hrequire hname, Generator.onlyOne_eq_error_iff.2 (.inr ⟨hcount, rfl⟩)]
    rfl
  | @fault hname m hone d hfault =>
    rw [hrequire hname, Generator.onlyOne_eq_ok_iff.2 hone]
    show (m.check c.sequences >>= _).map _ = _
    rw [Marker.check_eq_error_of_fault hfault]
    rfl
  | @present hname m hone hfaultless =>
    rw [hrequire hname, Generator.onlyOne_eq_ok_iff.2 hone]
    show (m.check c.sequences >>= _).map _ = _
    rw [Marker.check_eq_ok_iff.2 hfaultless, ← Marker.kind_descriptor c o m]
    rfl

/-- A built-in generator decides as the relation says. -/
theorem map_kind_extract_eq_iff {r : Except Skip Kind} :
    (family.generator.extract c o).map Descriptor.kind = r ↔
      Decides c.name (c.markersIn family) c.sequences r := by
  constructor
  · rintro rfl
    obtain ⟨r, hr⟩ := exists_decides c.name (c.markersIn family) c.sequences
    exact map_kind_extract_of_decides hr ▸ hr
  · exact map_kind_extract_of_decides

/-- The reason for skipping a candidate is the one that is decided on. -/
lemma extract_eq_error_iff {s : Skip} :
    family.generator.extract c o = .error s ↔
      Decides c.name (c.markersIn family) c.sequences (.error s) := by
  rw [← map_kind_extract_eq_iff]
  cases family.generator.extract c o <;> simp [Except.map]

/-- A reason that is decided on is worded here. -/
lemma Decides.exists_phrase {s : Skip} (h : Decides name markers sequences (.error s)) :
    ∃ p, s.phrase? = some p := by
  cases h with
  | typeName => exact ⟨_, rfl⟩
  | noMarker => exact ⟨_, rfl⟩
  | ambiguousMarkers => exact ⟨_, rfl⟩
  | fault _ _ hfault =>
    obtain ⟨p, hp⟩ := hfault.exists_phrase
    exact ⟨_, Option.map_eq_some_iff.2 ⟨p, hp, rfl⟩⟩

/-- What is described goes by the identity of the candidate. -/
lemma identity_of_extract_eq_ok {d : Descriptor} (h : family.generator.extract c o = .ok d) :
    d.identity = c.identity :=
  (Generator.identity_of_extract_eq_ok (Generator.mem_defaults_iff_family.2 ⟨family, rfl⟩) h).2

/-- Markers of other families go without what is declared for collectors. -/
lemma Decides.congr_sequences {sequences' : List NumberSequence} {r : Except Skip Kind}
    (hmarkers : ∀ m ∈ markers, m ≠ .sequenceCollector) (h : Decides name markers sequences r) :
    Decides name markers sequences' r := by
  have hfault : ∀ {m d} {s t : List NumberSequence}, m ≠ .sequenceCollector →
      Marker.Fault s m d → Marker.Fault t m d := by
    intro m d s t hm h
    cases h with
    | caseCount hcount => exact .caseCount hcount
    | repeatedCase hcount htypes hearlier hmem => exact .repeatedCase hcount htypes hearlier hmem
    | blankInner hblank => exact .blankInner hblank
    | noSequences => exact absurd rfl hm
    | sequence => exact absurd rfl hm
  cases h with
  | typeName hname => exact .typeName hname
  | noMarker hname hcount => exact .noMarker hname hcount
  | ambiguousMarkers hname hcount => exact .ambiguousMarkers hname hcount
  | fault hname hone h =>
    exact .fault hname hone (hfault (hmarkers _ (hone ▸ List.mem_singleton_self _)) h)
  | present hname hone hfaultless =>
    exact .present hname hone fun d hd =>
      hfaultless d (hfault (hmarkers _ (hone ▸ List.mem_singleton_self _)) hd)

/-- **The built-in generators decide exactly.**  What the generator of a family makes of a candidate
is what is decided by the name, the markers of the family and the declared sequences.  An artifact
goes by the identity of the candidate.  No candidate is skipped because it is not meant for the
generator or because a value cannot be bound.  The text of a reason is the phrase for it, in which
the number of markers, the name of the candidate, the number of cases, the repeated case or the name
of the sequence stands as it is; and no other defect has the text of the one that is found.  Other
markers, sequences that no collector is made for, all other facts and the options have no part in
the decision. -/
theorem extract_decided (family : Family) (c : Candidate) (o : Options) :
    (∀ r, (family.generator.extract c o).map Descriptor.kind = r ↔
        Decides c.name (c.markersIn family) c.sequences r) ∧
      (∀ d, family.generator.extract c o = .ok d → d.identity = c.identity) ∧
      (family.generator.extract c o ≠ .error .notApplicable ∧
        ∀ e, family.generator.extract c o ≠ .error (.invalidFacts (.unbindable e))) ∧
      (∀ s, family.generator.extract c o = .error s →
        ∃ p, s.phrase? = some p ∧ s.message = p.front ++ p.named ++ p.back) ∧
      (∀ d, family.generator.extract c o = .error (.invalidFacts d) →
        ∃ p, d.phrase? = some p ∧ d.message = p.front ++ p.named ++ p.back ∧
          ∀ e q, e.phrase? = some q → e.message = d.message → e = d) ∧
      ∀ (c' : Candidate) (o' : Options), c'.name = c.name →
        c'.markersIn family = c.markersIn family →
          (family = .sequence → c'.sequences = c.sequences) →
            (family.generator.extract c' o').map Descriptor.kind =
              (family.generator.extract c o).map Descriptor.kind := by
  have hphrase : ∀ s, family.generator.extract c o = .error s → ∃ p, s.phrase? = some p :=
    fun s h => (extract_eq_error_iff.1 h).exists_phrase
  refine ⟨fun r => map_kind_extract_eq_iff, fun d => identity_of_extract_eq_ok, ⟨?_, ?_⟩, ?_, ?_,
    ?_⟩
  · intro h
    cases extract_eq_error_iff.1 h
  · intro e h
    obtain ⟨p, ⟨⟩⟩ := hphrase _ h
  · intro s h
    obtain ⟨p, hp⟩ := hphrase s h
    exact ⟨p, hp, Skip.message_eq hp⟩
  · intro d h
    obtain ⟨p, hp⟩ := hphrase _ h
    obtain ⟨p', hp', -⟩ := Option.map_eq_some_iff.1 hp
    exact ⟨p', hp', Defect.message_eq hp', fun e q hq heq => Defect.eq_of_message_eq hq hp' heq⟩
  · intro c' o' hname hmarkers hsequences
    rw [map_kind_extract_eq_iff, hname, hmarkers]
    have hdecides : Decides c.name (c.markersIn family) c.sequences
        ((family.generator.extract c o).map Descriptor.kind) := map_kind_extract_eq_iff.1 rfl
    by_cases hfamily : family = .sequence
    · rwa [hsequences hfamily]
    · refine hdecides.congr_sequences fun m hm heq => hfamily ?_
      have hfam := beq_iff_eq.1 (List.mem_filter.1 hm).2
      rw [← hfam, heq, Marker.family]

end Main

/-- A candidate with a marker of each family: a case and a sequence are repeated, of which the
texts of the reasons tell, and nothing is wrong with the value object, whose generator does not look
at the rest. -/
theorem extract_decided_shape :
    let value : Marker := .valueObject ⟨"u8", true⟩
    let c : Candidate :=
      { name := "Shape_2"
        modules := ["geo"]
        markers := [.holder (.cases ["A", "B", "A"]), value, .sequenceCollector]
        sequences := [{ name := "ids" }, { name := "ids", increment := 0 }, { name := "ids" }] }
    let c' : Candidate := { name := "Shape_2", typeParams := ["T"], markers := [value] }
    (holder.generator.extract c {}).map Descriptor.kind =
        .error (.invalidFacts (.repeatedCase "A")) ∧
      (sequence.generator.extract c {}).map Descriptor.kind =
        .error (.invalidFacts (.zeroIncrement "ids")) ∧
      (∃ d, holder.generator.extract c {} = .error (.invalidFacts d) ∧
        d.message = "case type 'A' appears more than once") ∧
      (∃ d, sequence.generator.extract c {} = .error (.invalidFacts d) ∧
        d.message = "sequence 'ids' has a zero increment") ∧
      (valueObject.generator.extract c {}).map Descriptor.kind = .ok .validatableValueObject ∧
      (∃ d, valueObject.generator.extract c {} = .ok d ∧ d.identity = c.identity) ∧
      (valueObject.generator.extract c' { style := .simple }).map Descriptor.kind =
        (valueObject.generator.extract c {}).map Descriptor.kind := by
  intro value c c'
  have hname : Generator.IsTypeWord c.name := Generator.isTypeName_iff.1 (by decide +kernel)
  have hids : Sequences.IsSequenceWord "ids" := Sequences.isName_iff.1 (by decide +kernel)
  have hcase : Marker.Fault c.sequences (.holder (.cases ["A", "B", "A"])) (.repeatedCase "A") :=
    .repeatedCase (by decide) (show _ = ["A", "B"] ++ "A" :: [] from rfl) (by decide) (by decide)
  have hsequence : Marker.Fault c.sequences .sequenceCollector (.zeroIncrement "ids") := by
    have hearlier : Sequences.firstDefect? [] [{ name := "ids" }] = none := by decide +kernel
    have hsequences : c.sequences =
        [{ name := "ids" }] ++ { name := "ids", increment := 0 } :: [{ name := "ids" }] := rfl
    exact .sequence hsequences (Sequences.firstDefect?_eq_none_iff_forall.1 hearlier)
      (.increment hids rfl)
  have hvalue : ∀ d, ¬ value.Fault c.sequences d := Marker.check_eq_ok_iff.1 (by decide +kernel)
  have hholder : holder.generator.extract c {} = .error _ :=
    extract_eq_error_iff.2 (.fault hname rfl hcase)
  have hcollector : sequence.generator.extract c {} = .error _ :=
    extract_eq_error_iff.2 (.fault hname rfl hsequence)
  obtain ⟨hdecided, hidentity, -, -, -, hothers⟩ := extract_decided .valueObject c {}
  have hkind := (hdecided _).2 (.present hname rfl hvalue)
  refine ⟨((extract_decided .holder c {}).1 _).2 (.fault hname rfl hcase),
    ((extract_decided .sequence c {}).1 _).2 (.fault hname rfl hsequence), ⟨_, hholder, ?_⟩,
    ⟨_, hcollector, ?_⟩, hkind, ?_, ?_⟩
  · obtain ⟨-, -, -, -, hworded, -⟩ := extract_decided .holder c {}
    obtain ⟨p, ⟨⟩, htext, -⟩ := hworded _ hholder
    exact htext.trans (by decide)
  · obtain ⟨-, -, -, -, hworded, -⟩ := extract_decided .sequence c {}
    obtain ⟨p, ⟨⟩, htext, -⟩ := hworded _ hcollector
    exact htext.trans (by decide)
  · cases hextract : valueObject.generator.extract c {} with
    | error s =>
      rw [hextract] at hkind
      cases hkind
    | ok d => exact ⟨d, rfl, hidentity d hextract⟩
  · exact hothers c' { style := .simple } rfl rfl nofun

end Family

end Stencil
