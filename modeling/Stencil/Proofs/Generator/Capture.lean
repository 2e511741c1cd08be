import Stencil.Digest.Xxh64
import Stencil.Proofs.Artifact.Equality
import Stencil.Proofs.Candidate.Outline
import Stencil.Proofs.Generator.Extraction
import Stencil.Proofs.Generator.Texts

/-!
# Descriptors capture what they are made from

An artifact is kept if its descriptor is equal to the one before.  So a descriptor must tell apart
any two candidates whose artifacts would differ, and it should not tell apart candidates that differ
in something no artifact shows.  For each of the built-in generators, equality of descriptors is
equality of the outline and of what the generator reads beside it: the one marker of its family, or
the sequences.

The outline, types and schemas are bound as they are and can be looked up.  What is bound as a text
with many parts in it is taken apart by `Holder.eq_of_fillCases_eq` and
`Sequences.sequences_eq_of_rows_eq`.

The main result is `Generator.beq_extract_iff`.
-/

namespace Stencil

variable {f g : Candidate} {o : Options}

/-! ## Outlines in descriptors -/

/-- A descriptor has the outline of a candidate in it. -/
structure Descriptor.Shows (d : Descriptor) (c : Candidate) : Prop where
  identity : d.identity = c.identity
  name : d.bindings.get? Key.name.text = some (some c.name)
  generics : d.bindings.get? Key.generics.text = some (some c.generics)
  visibility : d.bindings.get? Key.visibility.text = some (some c.visibility.lead)

/-- Descriptors that say the same have the same text under a key. -/
lemma Descriptor.Agrees.text_eq {a b : Descriptor} (h : a.Agrees b) (key : Key) {x y : String}
    (ha : a.bindings.get? key.text = some (some x))
    (hb : b.bindings.get? key.text = some (some y)) : x = y := by
  rw [h.get?, hb] at ha
  exact (Option.some.inj (Option.some.inj ha)).symm

lemma Descriptor.Shows.sameOutline {a b : Descriptor} (ha : a.Shows f) (hb : b.Shows g)
    (h : a.Agrees b) : f.SameOutline g :=
  { name := h.text_eq .name ha.name hb.name
    identity := ha.identity.symm.trans (h.identity.trans hb.identity)
    generics := h.text_eq .generics ha.generics hb.generics
    visibility :=
      Visibility.lead_injective (h.text_eq .visibility ha.visibility hb.visibility) }

/-- What all patterns are filled with depends on the outline only. -/
lemma Candidate.SameOutline.baseBindings_eq (h : f.SameOutline g) (o : Options) :
    Generator.baseBindings f o = Generator.baseBindings g o := by
  unfold Generator.baseBindings Generator.headerText
  rw [h.name, h.generics, h.visibility, h.fullName_eq]

/-! ## Holders -/

namespace Holder

lemma shows_descriptor (c : Candidate) (o : Options) (h : Holding) :
    (descriptor c o h).Shows c := by
  cases h <;> exact ⟨rfl, rfl, rfl, rfl⟩

lemma descriptor_congr (hfg : f.SameOutline g) (o : Options) (h : Holding) :
    descriptor f o h = descriptor g o h := by
  have hcommon : commonBindings f o = commonBindings g o := by
    rw [commonBindings, commonBindings, hfg.baseBindings_eq, hfg.name]
  have hpairs : pairsOf o.filler f h = pairsOf o.filler g h := by
    cases h with
    | result ok err => rfl
    | option value => rfl
    | cases types => simp only [pairsOf, casesPairs, fillCases_congr hfg.name hfg.generics]
  rw [descriptor, descriptor, hfg.identity, hcommon, hpairs]

lemma eq_of_agrees {c : Candidate} {h k : Holding}
    (hagree : (descriptor c o h).Agrees (descriptor c o k)) : h = k := by
  have hkind : kindOf h = kindOf k := hagree.kind
  cases h with
  | result ok err =>
    cases k with
    | result ok' err' =>
      have hok : ok = ok' := hagree.text_eq .ok rfl rfl
      have herr : err = err' := hagree.text_eq .err rfl rfl
      rw [hok, herr]
    | option => cases hkind
    | cases => cases hkind
  | option value =>
    cases k with
    | result => cases hkind
    | option value' =>
      have hvalue : value = value' := hagree.text_eq .value rfl rfl
      rw [hvalue]
    | cases => cases hkind
  | cases types =>
    cases k with
    | result => cases hkind
    | option => cases hkind
    | cases types' =>
      have hvariants : fillCases o.filler Patterns.caseVariant c types =
          fillCases o.filler Patterns.caseVariant c types' :=
        hagree.text_eq .variants rfl rfl
      have hconversions : fillCases o.filler Patterns.caseConversion c types =
          fillCases o.filler Patterns.caseConversion c types' :=
        hagree.text_eq .fromImpls rfl rfl
      -- either text alone may be the same for different types
      rw [eq_of_fillCases_eq hvariants hconversions]

/-- The descriptors of two holders say the same exactly if the outlines are the same and the
holders hold the same. -/
theorem descriptor_agrees_iff {h k : Holding} :
    (descriptor f o h).Agrees (descriptor g o k) ↔ f.SameOutline g ∧ h = k := by
  constructor
  · intro hagree
    have hfg := (shows_descriptor f o h).sameOutline (shows_descriptor g o k) hagree
    rw [descriptor_congr hfg] at hagree
    exact ⟨hfg, eq_of_agrees hagree⟩
  · rintro ⟨hfg, rfl⟩
    rw [descriptor_congr hfg]
    exact .refl _

end Holder

/-! ## Value objects -/

namespace ValueObject

lemma shows_descriptor (c : Candidate) (o : Options) (w : Wrapping) :
    (descriptor c o w).Shows c := ⟨rfl, rfl, rfl, rfl⟩

lemma partBindings_congr (hfg : f.SameOutline g) (o : Options) (w : Wrapping) :
    partBindings f o w = partBindings g o w := by
  rw [partBindings, partBindings, hfg.baseBindings_eq, hfg.name]

lemma validated_eq_of_kind_eq {w v : Wrapping} (h : kind w = kind v) :
    w.validated = v.validated := by
  unfold kind at h
  cases hw : w.validated <;> cases hv : v.validated <;> simp [hw, hv] at h ⊢

/-- Candidates with the same outline have the same parts exactly if both want to be displayed, or
neither does. -/
lemma commonParts_eq_iff (hfg : f.SameOutline g) {w : Wrapping} :
    commonParts f o w = commonParts g o w ↔ f.display = g.display := by
  have hshown : o.filler.fill Patterns.valueObjectDisplay (partBindings g o w) ≠ "" :=
    fill_valueObjectDisplay_ne_empty o.style _
  unfold commonParts
  rw [partBindings_congr hfg, String.append_right_inj]
  cases f.display <;> cases g.display
  · simp
  · simpa using hshown.symm
  · simpa using hshown
  · simp

/-- The descriptors of two value objects say the same exactly if the outlines are the same, the
same is wrapped in the same way, and both are displayed or neither is. -/
theorem descriptor_agrees_iff {w v : Wrapping} :
    (descriptor f o w).Agrees (descriptor g o v) ↔
      f.SameOutline g ∧ w = v ∧ f.display = g.display := by
  constructor
  · intro hagree
    have hfg := (shows_descriptor f o w).sameOutline (shows_descriptor g o v) hagree
    obtain rfl : w = v := by
      have hinner : w.inner = v.inner := hagree.text_eq .inner rfl rfl
      rw [Wrapping.mk.injEq]
      exact ⟨hinner, validated_eq_of_kind_eq hagree.kind⟩
    have hparts : commonParts f o w = commonParts g o w := hagree.text_eq .commonImpls rfl rfl
    exact ⟨hfg, rfl, (commonParts_eq_iff hfg).1 hparts⟩
  · rintro ⟨hfg, rfl, hdisplay⟩
    have hsame : descriptor f o w = descriptor g o w := by
      rw [descriptor, descriptor, hfg.identity, partBindings_congr hfg,
        (commonParts_eq_iff hfg).2 hdisplay]
    rw [hsame]
    exact .refl _

end ValueObject

/-! ## Sequence collectors -/

namespace Sequences

lemma shows_descriptor (c : Candidate) (o : Options) : (descriptor c o).Shows c :=
  ⟨rfl, rfl, rfl, rfl⟩

/-- The descriptors of two collectors of sound sequences say the same exactly if the outlines and
the sequences are the same. -/
theorem descriptor_agrees_iff (hf : Sound f.sequences) (hg : Sound g.sequences) :
    (descriptor f o).Agrees (descriptor g o) ↔ f.SameOutline g ∧ f.sequences = g.sequences := by
  constructor
  · intro hagree
    have hfg := (shows_descriptor f o).sameOutline (shows_descriptor g o) hagree
    have hrows : rows o.filler f = rows o.filler g := hagree.text_eq .entries rfl rfl
    exact ⟨hfg, sequences_eq_of_rows_eq hfg.name hf.named hg.named hrows⟩
  · rintro ⟨hfg, hsequences⟩
    have hrows : rows o.filler f = rows o.filler g := by
      rw [rows, rows, hsequences, rowBindings_congr hfg.name]
    rw [descriptor, descriptor, hfg.identity, hfg.baseBindings_eq, hrows]
    exact .refl _

end Sequences

/-! ## Equality -/

namespace Generator

section Main

variable [TextHash]

/-- **Descriptors capture what they are made from.**  Descriptors that one of the built-in
generators makes of two candidates under the same options are equal exactly if the candidates have
the same outline and, for a holder, one marker that holds the same; for a value object, one marker
that wraps the same, and the same wish to be displayed; for a sequence collector, the same
sequences in the same order. -/
theorem beq_extract_iff (o : Options) (f g : Candidate) :
    (∀ a b, Holder.generator.extract f o = .ok a → Holder.generator.extract g o = .ok b →
      ((a == b) = true ↔
        f.SameOutline g ∧
          ∃ h, f.markersIn .holder = [.holder h] ∧ g.markersIn .holder = [.holder h])) ∧
    (∀ a b, ValueObject.generator.extract f o = .ok a →
      ValueObject.generator.extract g o = .ok b →
      ((a == b) = true ↔
        f.SameOutline g ∧
          (∃ w, f.markersIn .valueObject = [.valueObject w] ∧
            g.markersIn .valueObject = [.valueObject w]) ∧
          f.display = g.display)) ∧
    ∀ a b, Sequences.generator.extract f o = .ok a → Sequences.generator.extract g o = .ok b →
      ((a == b) = true ↔ f.SameOutline g ∧ f.sequences = g.sequences) := by
  refine ⟨?_, ?_, ?_⟩
  · intro a b ha hb
    obtain ⟨-, h, hf, -, rfl⟩ := Holder.extract_eq_ok_iff.1 ha
    obtain ⟨-, k, hg, -, rfl⟩ := Holder.extract_eq_ok_iff.1 hb
    rw [Descriptor.beq_iff, Holder.descriptor_agrees_iff, hf, hg]
    simp [eq_comm]
  · intro a b ha hb
    obtain ⟨-, w, hf, -, rfl⟩ := ValueObject.extract_eq_ok_iff.1 ha
    obtain ⟨-, v, hg, -, rfl⟩ := ValueObject.extract_eq_ok_iff.1 hb
    rw [Descriptor.beq_iff, ValueObject.descriptor_agrees_iff, hf, hg]
    simp [eq_comm]
  · intro a b ha hb
    obtain ⟨-, -, hf, rfl⟩ := Sequences.extract_eq_ok_iff.1 ha
    obtain ⟨-, -, hg, rfl⟩ := Sequences.extract_eq_ok_iff.1 hb
    rw [Descriptor.beq_iff, Sequences.descriptor_agrees_iff hf hg]

end Main

/-- The rows of cases of these two candidates are the same text, and still the holders are told
apart; so are the sequences, while the value objects are equal. -/
theorem beq_extract_iff_brackets :
    let f : Candidate :=
      { name := "Shape"
        markers := [.holder (.cases ["A),\n    Case1(B", "C"]), .valueObject ⟨"u8", false⟩,
          .sequenceCollector]
        sequences := [{ name := "ids" }] }
    let g : Candidate :=
      { name := "Shape"
        markers := [.sequenceCollector, .holder (.cases ["A", "B),\n    Case1(C"]),
          .valueObject ⟨"u8", false⟩]
        sequences := [{ name := "ids", schema := some "None" }] }
    (∃ a b, Holder.generator.extract f {} = .ok a ∧ Holder.generator.extract g {} = .ok b ∧
        (a == b) = false) ∧
      (∃ a b, ValueObject.generator.extract f {} = .ok a ∧
        ValueObject.generator.extract g {} = .ok b ∧ (a == b) = true) ∧
      ∃ a b, Sequences.generator.extract f {} = .ok a ∧ Sequences.generator.extract g {} = .ok b ∧
        (a == b) = false := by
  intro f g
  have hname : isTypeName f.name = true ∧ isTypeName g.name = true := by decide +kernel
  have hcases : Holder.Sound (.cases ["A),\n    Case1(B", "C"]) ∧
      Holder.Sound (.cases ["A", "B),\n    Case1(C"]) := by
    unfold Holder.Sound
    decide
  have hinner : Text.allBlank "u8" = false := by decide +kernel
  have hsound : Sequences.Sound f.sequences ∧ Sequences.Sound g.sequences :=
    ⟨⟨by decide, by decide +kernel, by decide, by decide⟩,
      ⟨by decide, by decide +kernel, by decide, by decide⟩⟩
  obtain ⟨hholder, hvalueObject, hsequences⟩ := beq_extract_iff {} f g
  refine ⟨?_, ?_, ?_⟩
  · obtain ⟨a, ha⟩ : ∃ a, Holder.generator.extract f {} = .ok a :=
      ⟨_, Holder.extract_eq_ok_iff.2 ⟨hname.1, _, rfl, hcases.1, rfl⟩⟩
    obtain ⟨b, hb⟩ : ∃ b, Holder.generator.extract g {} = .ok b :=
      ⟨_, Holder.extract_eq_ok_iff.2 ⟨hname.2, _, rfl, hcases.2, rfl⟩⟩
    refine ⟨a, b, ha, hb, ?_⟩
    rw [← Bool.not_eq_true, hholder a b ha hb]
    rintro ⟨-, h, hf, hg⟩
    exact absurd (hf.trans hg.symm) (by decide)
  · obtain ⟨a, ha⟩ : ∃ a, ValueObject.generator.extract f {} = .ok a :=
      ⟨_, ValueObject.extract_eq_ok_iff.2 ⟨hname.1, _, rfl, hinner, rfl⟩⟩
    obtain ⟨b, hb⟩ : ∃ b, ValueObject.generator.extract g {} = .ok b :=
      ⟨_, ValueObject.extract_eq_ok_iff.2 ⟨hname.2, _, rfl, hinner, rfl⟩⟩
    refine ⟨a, b, ha, hb, (hvalueObject a b ha hb).2 ⟨?_, ⟨_, rfl, rfl⟩, rfl⟩⟩
    exact ⟨rfl, rfl, rfl, rfl⟩
  · obtain ⟨a, ha⟩ : ∃ a, Sequences.generator.extract f {} = .ok a :=
      ⟨_, Sequences.extract_eq_ok_iff.2 ⟨hname.1, rfl, hsound.1, rfl⟩⟩
    obtain ⟨b, hb⟩ : ∃ b, Sequences.generator.extract g {} = .ok b :=
      ⟨_, Sequences.extract_eq_ok_iff.2 ⟨hname.2, rfl, hsound.2, rfl⟩⟩
    refine ⟨a, b, ha, hb, ?_⟩
    rw [← Bool.not_eq_true, hsequences a b ha hb]
    rintro ⟨-, hfg⟩
    exact absurd hfg (by decide)

end Generator

end Stencil
