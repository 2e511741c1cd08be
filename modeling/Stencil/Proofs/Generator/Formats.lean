import Stencil.Proofs.Generator.Capture

/-!
# Which formats a descriptor records

The formats that types are serialized in reach a descriptor through the attribute lines alone.
These show whether any format is asked for and whether XML is, and nothing else: JSON and
MessagePack are served by the same lines.  So the descriptors of a candidate under two sets of
formats may be equal although the sets are not.

The main results are

* `Generator.attributeText_eq_iff`: what the attribute lines tell of the formats;
* `Generator.beq_extract_formats_iff`: a descriptor records this much and no more;
* `Generator.exists_beq_extract_formats`: JSON and MessagePack are not told apart.
-/

namespace Stencil

/-- Two sets of formats ask for the same attribute lines. -/
structure Formats.SameLines (s t : Formats) : Prop where
  any : s.any = t.any
  xml : s.contains .xml = t.contains .xml

variable {s t : Formats}

/-- Without any format there is no XML either. -/
lemma Formats.contains_xml_eq_false (h : s.any = false) : s.contains .xml = false := by
  have hbits : s.bits = 0 := by simpa [any] using h
  rw [contains, hbits]
  decide

/-! ## Attribute lines -/

namespace Generator

variable {name : String} {mode : Option String}

/-- The lines for some format are more than those for none. -/
lemma attributeText_ne_of_any (hs : s.any = false) (ht : t.any = true) :
    attributeText name s mode ≠ attributeText name t mode := by
  intro h
  have hderive : 0 < "#[derive(serde::Serialize, serde::Deserialize)]\n".length := by decide
  have hlength := congrArg String.length h
  simp only [attributeText, hs, ht, if_true, Bool.false_eq_true, if_false,
    String.length_append] at hlength
  omega

/-- The last line is there for XML only. -/
lemma contains_xml_eq_of_attributeText_eq (hs : s.any = true) (ht : t.any = true)
    (h : attributeText name s mode = attributeText name t mode) :
    s.contains .xml = t.contains .xml := by
  simp only [attributeText, hs, ht, if_true, String.append_right_inj] at h
  cases hsx : s.contains .xml <;> cases htx : t.contains .xml <;> simp [hsx, htx] at h ⊢

/-- The attribute lines of a type tell whether there is any format, and whether there is XML. -/
theorem attributeText_eq_iff (name : String) (mode : Option String) :
    attributeText name s mode = attributeText name t mode ↔ s.SameLines t := by
  constructor
  · intro h
    cases hs : s.any with
    | false =>
      cases ht : t.any with
      | false =>
        have hxml := Formats.contains_xml_eq_false hs
        exact ⟨hs.trans ht.symm, hxml.trans (Formats.contains_xml_eq_false ht).symm⟩
      | true => exact absurd h (attributeText_ne_of_any hs ht)
    | true =>
      cases ht : t.any with
      | false => exact absurd h.symm (attributeText_ne_of_any ht hs)
      | true => exact ⟨hs.trans ht.symm, contains_xml_eq_of_attributeText_eq hs ht h⟩
  · rintro ⟨hany, hxml⟩
    unfold attributeText
    rw [hany, hxml]

end Generator

/-! ## Descriptors -/

variable {c : Candidate} {o : Options}

/-- The descriptors of one holder under two sets of formats say the same exactly if these ask for
the same attribute lines. -/
theorem Holder.descriptor_agrees_formats_iff {h : Holding} :
    (descriptor c { o with serialization := s } h).Agrees
        (descriptor c { o with serialization := t } h) ↔ s.SameLines t := by
  rw [← Generator.attributeText_eq_iff c.name none]
  constructor
  · intro hagree
    cases h <;> exact hagree.text_eq .attributes rfl rfl
  · intro htext
    have hcommon : commonBindings c { o with serialization := s } =
        commonBindings c { o with serialization := t } :=
      congrArg (fun text => (Generator.baseBindings c o).put .attributes (some text)) htext
    rw [descriptor, descriptor, hcommon]
    exact .refl _

/-- The descriptors of one value object under two sets of formats say the same exactly if these ask
for the same attribute lines. -/
theorem ValueObject.descriptor_agrees_formats_iff {w : Wrapping} :
    (descriptor c { o with serialization := s } w).Agrees
        (descriptor c { o with serialization := t } w) ↔ s.SameLines t := by
  rw [← Generator.attributeText_eq_iff c.name (some (serializationMode w))]
  constructor
  · exact fun hagree => hagree.text_eq .attributes rfl rfl
  · intro htext
    have hparts : partBindings c { o with serialization := s } w =
        partBindings c { o with serialization := t } w :=
      congrArg (fun text => (Generator.baseBindings c o).putAll
        [(.inner, some w.inner), (.attributes, some text)]) htext
    -- the parts that go into the descriptor are filled with the attribute lines too
    rw [descriptor, descriptor, commonParts, commonParts, hparts]
    exact .refl _

namespace Generator

section Main

variable [TextHash]

/-- **Which formats a descriptor records.**  Descriptors that the generator of holders or that of
value objects makes of one candidate, under options that differ in the formats at most, are equal
exactly if there is a format in both sets or in neither, and XML in both or in neither. -/
theorem beq_extract_formats_iff (c : Candidate) (o : Options) (s t : Formats) :
    ∀ g ∈ [Holder.generator, ValueObject.generator], ∀ a b,
      g.extract c { o with serialization := s } = .ok a →
      g.extract c { o with serialization := t } = .ok b →
        ((a == b) = true ↔ s.any = t.any ∧ s.contains .xml = t.contains .xml) := by
  have hlines : s.SameLines t ↔ s.any = t.any ∧ s.contains .xml = t.contains .xml :=
    ⟨fun h => ⟨h.any, h.xml⟩, fun h => ⟨h.1, h.2⟩⟩
  intro g hg a b ha hb
  rw [Descriptor.beq_iff, ← hlines]
  rcases List.mem_pair.1 hg with rfl | rfl
  · obtain ⟨-, h, hmarkers, -, rfl⟩ := Holder.extract_eq_ok_iff.1 ha
    obtain ⟨-, k, hmarkers', -, rfl⟩ := Holder.extract_eq_ok_iff.1 hb
    obtain rfl : h = k := by simpa [hmarkers] using hmarkers'
    exact Holder.descriptor_agrees_formats_iff
  · obtain ⟨-, w, hmarkers, -, rfl⟩ := ValueObject.extract_eq_ok_iff.1 ha
    obtain ⟨-, v, hmarkers', -, rfl⟩ := ValueObject.extract_eq_ok_iff.1 hb
    obtain rfl : w = v := by simpa [hmarkers] using hmarkers'
    exact ValueObject.descriptor_agrees_formats_iff

end Main

/-- XML beside JSON is recorded, by a value object that is serialized through a conversion. -/
theorem beq_extract_formats_iff_xml :
    let c : Candidate := { name := "Email", markers := [.valueObject ⟨"String", true⟩] }
    let s : Formats := .json
    let t : Formats := Formats.json.union .xml
    ∃ a b, ValueObject.generator.extract c { serialization := s } = .ok a ∧
      ValueObject.generator.extract c { serialization := t } = .ok b ∧ (a == b) = false := by
  intro c s t
  have hname : isTypeName c.name = true := by decide +kernel
  have hinner : Text.allBlank "String" = false := by decide +kernel
  have ha : ValueObject.generator.extract c { serialization := s } = .ok _ :=
    ValueObject.extract_eq_ok_iff.2 ⟨hname, _, rfl, hinner, rfl⟩
  have hb : ValueObject.generator.extract c { serialization := t } = .ok _ :=
    ValueObject.extract_eq_ok_iff.2 ⟨hname, _, rfl, hinner, rfl⟩
  refine ⟨_, _, ha, hb, ?_⟩
  rw [← Bool.not_eq_true, beq_extract_formats_iff c {} s t _ (by simp) _ _ ha hb]
  decide

/-- A candidate with a marker of either kind has the same descriptors for JSON as for
MessagePack. -/
theorem exists_beq_extract_formats :
    let c : Candidate :=
      { name := "Email"
        markers := [.holder (.result "User" "String"), .valueObject ⟨"String", false⟩] }
    Formats.json ≠ Formats.messagePack ∧
      ∀ g ∈ [Holder.generator, ValueObject.generator], ∃ a b,
        g.extract c { serialization := .json } = .ok a ∧
          g.extract c { serialization := .messagePack } = .ok b ∧ (a == b) = true := by
  intro c
  have hname : isTypeName c.name = true := by decide +kernel
  have hinner : Text.allBlank "String" = false := by decide +kernel
  have hlines : Formats.json.SameLines .messagePack := ⟨by decide, by decide⟩
  refine ⟨by decide, fun g hg => ?_⟩
  rcases List.mem_pair.1 hg with rfl | rfl
  · have hagree := (Holder.descriptor_agrees_formats_iff (c := c) (o := {})
      (h := .result "User" "String")).2 hlines
    exact ⟨_, _, Holder.extract_eq_ok_iff.2 ⟨hname, _, rfl, trivial, rfl⟩,
      Holder.extract_eq_ok_iff.2 ⟨hname, _, rfl, trivial, rfl⟩, Descriptor.beq_iff.2 hagree⟩
  · have hagree := (ValueObject.descriptor_agrees_formats_iff (c := c) (o := {})
      (w := ⟨"String", false⟩)).2 hlines
    exact ⟨_, _, ValueObject.extract_eq_ok_iff.2 ⟨hname, _, rfl, hinner, rfl⟩,
      ValueObject.extract_eq_ok_iff.2 ⟨hname, _, rfl, hinner, rfl⟩, Descriptor.beq_iff.2 hagree⟩

end Generator

end Stencil
