import Stencil.Proofs.Generator.Contents

/-!
# Texts are never read as patterns

An artifact is made in two stages: snippets are filled, their texts are bound, and the pattern of
the artifact is filled with them.  So a text of the candidate passes through the filler twice, and
it may well look like a pattern.  Still no such text is ever read: the artifact is the text of one
template, which is known from the kind of the artifact, the number of its rows, and whether it is to
be displayed (`Kind.flattened`), and all texts of the candidate and of the options are put into the
slots of this template as they are.  Which text goes into which slot is said without the two stages
(`Marker.slotText`): the slots of a row have the texts of the case or of the sequence that is
declared in its place.

The main results are

* `Part.fill_eq`: a part is its template with the raw texts in its slots;
* `Template.fill_eq_fill_flatten`: filling in two stages is filling the flat template;
* `Marker.suited`: what the built-in generators bind are the texts for the slots;
* `Generator.fill_eq_fill_flattened`: the artifacts of the built-in generators.
-/

namespace Stencil

/-! ## Flat templates -/

/-- A place in an artifact that a raw text is put into. -/
inductive Slot where
  /-- A hole in the pattern of the artifact. -/
  | whole (name : String)
  /-- A hole in one of the snippets that stand for a hole in the pattern, counted from zero. -/
  | part (name : String) (index : Nat) (inner : String)
deriving DecidableEq

/-- What is listed for a text, if the text is a key. -/
def Key.find? {υ : Type} (entries : List (Key × υ)) (name : String) : Option υ :=
  (Key.ofString? name).bind fun key => Table.lookup? key entries

lemma Key.find?_text {υ : Type} (entries : List (Key × υ)) (key : Key) :
    Key.find? entries key.text = Table.lookup? key entries := by
  rw [find?, ofString?_text, Option.bind_some]

/-- The template of a pattern in which some holes stand for rows of snippets. -/
def Template.flatten (pattern : String) (rows : List (Key × List Snippet)) : Template Slot :=
  (ofPattern Key.maxLength pattern).expand fun name =>
    match Key.find? rows name with
    | some snippets => (snippets.mapIdx fun index s =>
        (ofPattern Key.maxLength s.pattern).rename (Slot.part name index)).flatten
    | none => [.inr (.whole name)]

namespace Kind

/-- The holes of a pattern that stand for rows of snippets, with the snippets in their order. -/
def rows (count : Nat) (display : Bool) : Kind → List (Key × List Snippet)
  | multiResultHolder =>
    [(.variants, List.replicate count .caseVariant),
      (.indexArms, List.replicate count .caseIndexArm),
      (.fromImpls, List.replicate count .caseConversion)]
  | valueObject | validatableValueObject =>
    [(.commonImpls, .valueObjectCommon :: if display then [.valueObjectDisplay] else [])]
  | sequenceCollector => [(.entries, List.replicate count .sequenceEntry)]
  | _ => []

/-- The template of the artifacts of a kind. -/
def flattened (k : Kind) (count : Nat) (display : Bool) : Template Slot :=
  Template.flatten k.pattern (k.rows count display)

end Kind

/-! ## Rows of snippets -/

/-- The snippets of the parts in a content. -/
def Content.snippets? : Content → Option (List Snippet)
  | raw _ => none
  | parts ps => some (ps.map Part.snippet)

/-- The keys that stand for parts, with the snippets of the parts. -/
def Content.rows (contents : List (Key × Content)) : List (Key × List Snippet) :=
  contents.filterMap fun entry => entry.2.snippets?.map fun snippets => (entry.1, snippets)

namespace Content

variable {contents : List (Key × Content)}

@[simp]
lemma rows_raw (key : Key) (text : Option String) :
    rows ((key, raw text) :: contents) = rows contents := rfl

@[simp]
lemma rows_parts (key : Key) (ps : List Part) :
    rows ((key, parts ps) :: contents) = (key, ps.map Part.snippet) :: rows contents := rfl

/-- A key has the rows of what it stands for. -/
lemma lookup?_rows (h : (contents.map Prod.fst).Nodup) (key : Key) :
    Table.lookup? key (rows contents) = (Table.lookup? key contents).bind snippets? := by
  induction contents with
  | nil => rfl
  | cons entry contents ih =>
    obtain ⟨key', content⟩ := entry
    rw [List.map_cons, List.nodup_cons] at h
    have hrest := ih h.2
    by_cases hkey : key' = key
    · subst hkey
      have hnone : Table.lookup? key' (rows contents) = none := by
        rw [hrest, Option.bind_eq_none_iff]
        intro other hother
        have hmem := (Table.lookup?_eq_some_iff h.2).1 hother
        exact absurd (List.mem_map_of_mem hmem) h.1
      cases content with
      | raw text => simp [Table.lookup?, snippets?, hnone]
      | parts ps => simp [Table.lookup?, snippets?]
    · cases content with
      | raw text => simp [Table.lookup?, hkey, hrest]
      | parts ps => simp [Table.lookup?, hkey, hrest]

end Content

/-! ## Two stages are one -/

/-- A part is filled with some texts: where its snippet has holes, they are what is bound. -/
def Part.FilledWith (part : Part) (text : String → String) : Prop :=
  ∀ inner ∈ part.snippet.keys, part.bindings.get? inner.text = some (some (text inner.text))

/-- Texts for slots suit what some keys stand for: the text for the slot of a key is the raw text
that the key stands for, and each part is filled with the texts for its own slots. -/
structure Content.Suited (contents : List (Key × Content)) (keys : List Key)
    (text : Slot → String) : Prop where
  raw : ∀ key ∈ keys, ∀ value, (key, .raw value) ∈ contents →
    text (.whole key.text) = value.getD ""
  parts : ∀ key ps, (key, .parts ps) ∈ contents → ∀ index (part : Part), ps[index]? = some part →
    part.FilledWith fun inner => text (.part key.text index inner)

/-- A part is its template with the texts that it is filled with. -/
lemma Part.fill_eq {part : Part} {text : String → String} (h : part.FilledWith text)
    (style : Style) :
    part.fill (Filler.ofStyle style) =
      (Template.ofPattern Key.maxLength part.snippet.pattern).fill text := by
  have hasks := part.snippet.asksFor
  rw [fill, Filler.fill_eq_template_fill, hasks.template_eq style]
  refine Template.fill_congr fun inner hinner => ?_
  obtain ⟨key, hkey, rfl⟩ := List.mem_map.1 ((hasks.mem_slots_iff inner).1 hinner)
  simp [Bindings.replacement?, h key hkey]

namespace Template

variable {contents : List (Key × Content)} {text : Slot → String} {style : Style}

/-- The rows of a hole are filled with the texts of the parts that the hole stands for. -/
lemma fill_rows {name : String} {ps : List Part}
    (h : ∀ index (part : Part), ps[index]? = some part →
      part.FilledWith fun inner => text (.part name index inner)) (style : Style) :
    fill text ((ps.map Part.snippet).mapIdx fun index s =>
        (ofPattern Key.maxLength s.pattern).rename (Slot.part name index)).flatten =
      String.join (ps.map (Part.fill (Filler.ofStyle style))) := by
  rw [fill_flatten]
  congr 1
  refine List.ext_getElem (by simp) fun index _ hindex => ?_
  rw [List.length_map] at hindex
  rw [List.getElem_map, List.getElem_mapIdx, List.getElem_map, List.getElem_map, fill_rename]
  exact (Part.fill_eq (h index _ (List.getElem?_eq_getElem hindex)) style).symm

/-- A pattern whose keys stand for raw texts and for rows of parts is filled, in two stages, with
the text of its flat template. -/
theorem fill_eq_fill_flatten {pattern : String} {keys : List Key} (hasks : AsksFor pattern keys)
    {b : Bindings}
    (hentries : b.table.entries =
      contents.map fun entry => (entry.1, entry.2.value (Filler.ofStyle style)))
    (hkeys : keys ⊆ contents.map Prod.fst) (hsuited : Content.Suited contents keys text) :
    (Filler.ofStyle style).fill pattern b =
      (flatten pattern (Content.rows contents)).fill text := by
  have hnodup : (contents.map Prod.fst).Nodup := by
    have hkeysnodup := b.table.nodup
    rw [hentries, List.map_map] at hkeysnodup
    exact hkeysnodup
  rw [Filler.fill_eq_template_fill, hasks.template_eq style, flatten, fill_expand]
  refine fill_congr fun name hname => ?_
  -- a slot of the pattern is called like a key, and the key stands for one of the contents
  obtain ⟨key, hkey, rfl⟩ := List.mem_map.1 ((hasks.mem_slots_iff name).1 hname)
  obtain ⟨⟨key', content⟩, hentry, hkey'⟩ := List.mem_map.1 (hkeys hkey)
  obtain rfl : key = key' := hkey'.symm
  have hlookup : Table.lookup? key contents = some content :=
    (Table.lookup?_eq_some_iff hnodup).2 hentry
  have hget : b.get? key.text = some (content.value (Filler.ofStyle style)) := by
    refine Bindings.get?_eq_some_iff.2 ⟨key, rfl, (Table.mem_entries_iff _ _ _).1 ?_⟩
    rw [hentries]
    exact List.mem_map_of_mem hentry
  rw [Bindings.replacement?, hget, Key.find?_text, Content.lookup?_rows hnodup, hlookup]
  cases content with
  | raw value =>
    show value.getD "" = fill text [.inr (.whole key.text)]
    rw [fill_singleton, hsuited.raw key hkey value hentry]
  | parts ps => exact (fill_rows (hsuited.parts key ps hentry) style).symm

end Template

/-! ## The built-in generators -/

namespace Marker

variable {c : Candidate} {o : Options}

/-- How many rows the artifact for a marker has: one for each case, or one for each sequence. -/
def count (c : Candidate) : Marker → Nat
  | holder (.cases types) => types.length
  | sequenceCollector => c.sequences.length
  | _ => 0

/-- The rows in the contents for a marker are those that its kind has. -/
lemma rows_contents (c : Candidate) (o : Options) (m : Marker) :
    Content.rows (m.contents c o) = (m.descriptor c o).kind.rows (m.count c) c.display := by
  cases m with
  | holder h =>
    cases h with
    | result ok err => rfl
    | option value => rfl
    | cases types =>
      have hparts : ∀ s, (Holder.caseParts s c types).map Part.snippet =
          List.replicate types.length s := by
        intro s
        rw [List.eq_replicate_iff]
        simp [Holder.caseParts]
      show [(Key.variants, (Holder.caseParts .caseVariant c types).map Part.snippet),
        (.indexArms, (Holder.caseParts .caseIndexArm c types).map Part.snippet),
        (.fromImpls, (Holder.caseParts .caseConversion c types).map Part.snippet)] = _
      rw [hparts, hparts, hparts]
      rfl
  | valueObject w =>
    show [(Key.commonImpls, (ValueObject.parts c o w).map Part.snippet)] =
      (ValueObject.kind w).rows 0 c.display
    unfold ValueObject.parts ValueObject.kind
    cases w.validated <;> cases c.display <;> rfl
  | sequenceCollector =>
    show [(Key.entries, (Sequences.parts c).map Part.snippet)] =
      [(Key.entries, List.replicate c.sequences.length .sequenceEntry)]
    have hparts : (Sequences.parts c).map Part.snippet =
        List.replicate c.sequences.length .sequenceEntry := by
      rw [List.eq_replicate_iff]
      simp [Sequences.parts]
    rw [hparts]

/-! ### Raw texts -/

/-- The texts for the holes of the pattern of an artifact. -/
def texts (c : Candidate) (o : Options) (m : Marker) : List (Key × String) :=
  let header :=
    if o.header then
      "// @generated by " ++ o.toolchain ++ " from `" ++ c.fullName ++ "`. Do not edit.\n\n"
    else ""
  let attributes := Generator.attributeText c.name o.serialization
  [(.name, c.name), (.generics, c.generics), (.visibility, c.visibility.lead), (.header, header)] ++
    match m with
    | holder (.result ok err) => [(.attributes, attributes none), (.ok, ok), (.err, err)]
    | holder (.option value) => [(.attributes, attributes none), (.value, value)]
    | holder (.cases types) =>
      [(.attributes, attributes none), (.count, toString types.length)]
    | valueObject ⟨inner, false⟩ =>
      [(.attributes, attributes (some "transparent")), (.inner, inner)]
    | valueObject ⟨inner, true⟩ =>
      [(.attributes, attributes (some ("try_from = \"" ++ inner ++ "\""))), (.inner, inner)]
    | sequenceCollector => []

/-- The texts for the holes of the snippets in a row: if there are cases or sequences, a row is for
the one of its number. -/
def rowTexts (c : Candidate) (index : Nat) : Marker → List (Key × String)
  | holder (.cases types) =>
    match types[index]? with
    | some type =>
      [(.index, toString index), (.type, type), (.name, c.name), (.generics, c.generics)]
    | none => []
  | holder _ => []
  | valueObject w => [(.name, c.name), (.generics, c.generics), (.inner, w.inner)]
  | sequenceCollector =>
    match c.sequences[index]? with
    | some s =>
      let schema :=
        match s.schema with
        | some text => "Some(" ++ Text.quote text ++ ")"
        | none => "None"
      [(.name, c.name), (.sequenceName, s.name), (.schema, schema), (.start, toString s.start),
        (.increment, toString s.increment)]
    | none => []

/-- The text for a slot of the artifact for a marker. -/
def slotText (c : Candidate) (o : Options) (m : Marker) : Slot → String
  | .whole name => (Key.find? (m.texts c o) name).getD ""
  | .part _ index inner => (Key.find? (m.rowTexts c index) inner).getD ""

lemma slotText_whole (key : Key) (m : Marker) :
    m.slotText c o (.whole key.text) = (Table.lookup? key (m.texts c o)).getD "" := by
  rw [slotText, Key.find?_text]

lemma slotText_part (name : String) (index : Nat) (key : Key) (m : Marker) :
    m.slotText c o (.part name index key.text) =
      (Table.lookup? key (m.rowTexts c index)).getD "" := by
  rw [slotText, Key.find?_text]

/-- No pattern has a hole for the version of the patterns. -/
lemma ne_patternVersion_of_mem_keys {k : Kind} {key : Key} (h : key ∈ k.keys) :
    key ≠ .patternVersion := by
  rintro rfl
  revert h
  cases k <;> decide

lemma slotText_of_mem_baseContents {key : Key} {value : Option String}
    (hkey : key ≠ .patternVersion) (hmem : (key, .raw value) ∈ Generator.baseContents c o)
    (m : Marker) : m.slotText c o (.whole key.text) = value.getD "" := by
  rw [slotText_whole]
  simp only [Generator.baseContents, List.mem_cons, List.not_mem_nil, or_false, Prod.mk.injEq,
    Content.raw.injEq] at hmem
  rcases hmem with ⟨rfl, rfl⟩ | ⟨rfl, rfl⟩ | ⟨rfl, rfl⟩ | ⟨rfl, -⟩ | ⟨rfl, rfl⟩
  · rfl
  · rfl
  · rfl
  · exact absurd rfl hkey
  · show (if o.header = true then Generator.headerText c o else "") = _
    cases o.header <;> rfl

/-- What a key stands for as it is, is the text for the slot of the key. -/
lemma slotText_of_mem_contents {key : Key} {value : Option String} {m : Marker}
    (hkey : key ≠ .patternVersion) (hmem : (key, .raw value) ∈ m.contents c o) :
    m.slotText c o (.whole key.text) = value.getD "" := by
  by_cases hbase : (key, Content.raw value) ∈ Generator.baseContents c o
  · exact slotText_of_mem_baseContents hkey hbase m
  rw [slotText_whole]
  cases m with
  | holder h =>
    have hown := (List.mem_append.1 hmem).resolve_left hbase
    cases h <;>
      simp only [List.mem_cons, List.not_mem_nil, or_false, Prod.mk.injEq, Content.raw.injEq,
        reduceCtorEq, and_false] at hown
    · rcases hown with ⟨rfl, rfl⟩ | ⟨rfl, rfl⟩ | ⟨rfl, rfl⟩ <;> rfl
    · rcases hown with ⟨rfl, rfl⟩ | ⟨rfl, rfl⟩ <;> rfl
    · rcases hown with ⟨rfl, rfl⟩ | ⟨rfl, rfl⟩ <;> rfl
  | valueObject w =>
    have hown := (List.mem_append.1 hmem).resolve_left hbase
    obtain ⟨inner, validated⟩ := w
    simp only [List.mem_cons, List.not_mem_nil, or_false, Prod.mk.injEq, Content.raw.injEq,
      reduceCtorEq, and_false] at hown
    rcases hown with ⟨rfl, rfl⟩ | ⟨rfl, rfl⟩ <;> cases validated <;> rfl
  | sequenceCollector =>
    have hown := (List.mem_append.1 hmem).resolve_left hbase
    simp at hown

/-- A part is filled with the texts for the slots of a number if it is with those of its row. -/
lemma filledWith_slotText {m : Marker} {index : Nat} {part : Part}
    (h : ∀ inner ∈ part.snippet.keys, part.bindings.get? inner.text =
      some (some ((Table.lookup? inner (m.rowTexts c index)).getD ""))) (name : String) :
    part.FilledWith fun inner => m.slotText c o (.part name index inner) := by
  intro inner hinner
  rw [h inner hinner, ← slotText_part]

/-- A snippet for a case is filled with its number, its type, and what is the same for all cases. -/
lemma filledWith_of_mem_caseParts {s : Snippet} {types : List String} {index : Nat} {part : Part}
    (hs : s.keys ⊆ [.index, .type, .name, .generics])
    (hpart : (Holder.caseParts s c types)[index]? = some part) (name : String) :
    part.FilledWith fun inner => (holder (.cases types)).slotText c o (.part name index inner) := by
  rw [Holder.caseParts, List.getElem?_mapIdx] at hpart
  obtain ⟨type, htype, rfl⟩ := Option.map_eq_some_iff.1 hpart
  refine filledWith_slotText (fun inner hinner => ?_) name
  have hkey := hs hinner
  rw [rowTexts, htype]
  simp only [List.mem_cons, List.not_mem_nil, or_false] at hkey
  rcases hkey with rfl | rfl | rfl | rfl <;> rfl

/-- The snippets of a value object are filled with its name, its type parameters and the inner
type. -/
lemma filledWith_of_mem_parts {w : Wrapping} {index : Nat} {part : Part}
    (hpart : part ∈ ValueObject.parts c o w) (name : String) :
    part.FilledWith fun inner => (valueObject w).slotText c o (.part name index inner) := by
  have hbindings : part.bindings = ValueObject.partBindings c o w ∧
      part.snippet.keys = [.name, .generics, .inner] := by
    unfold ValueObject.parts at hpart
    rcases List.mem_cons.1 hpart with rfl | hpart
    · exact ⟨rfl, rfl⟩
    · cases hdisplay : c.display <;> simp [hdisplay] at hpart
      subst hpart
      exact ⟨rfl, rfl⟩
  refine filledWith_slotText (fun inner hinner => ?_) name
  rw [hbindings.2] at hinner
  rw [hbindings.1, rowTexts]
  simp only [List.mem_cons, List.not_mem_nil, or_false] at hinner
  rcases hinner with rfl | rfl | rfl <;> rfl

/-- A row is filled with what is declared for its sequence. -/
lemma filledWith_of_mem_rows {index : Nat} {part : Part}
    (hpart : (Sequences.parts c)[index]? = some part) (name : String) :
    part.FilledWith fun inner => sequenceCollector.slotText c o (.part name index inner) := by
  rw [Sequences.parts, List.getElem?_map] at hpart
  obtain ⟨s, hs, rfl⟩ := Option.map_eq_some_iff.1 hpart
  refine filledWith_slotText (fun inner hinner => ?_) name
  rw [rowTexts, hs]
  rcases s with ⟨_, _ | _, _, _⟩ <;>
    simp only [Snippet.keys, List.mem_cons, List.not_mem_nil, or_false] at hinner <;>
    rcases hinner with rfl | rfl | rfl | rfl | rfl <;> rfl

/-- Each part of what a key stands for is filled with the texts for the slots of its number. -/
lemma filledWith_of_mem_contents {key : Key} {ps : List Part} {m : Marker}
    (hmem : (key, .parts ps) ∈ m.contents c o) {index : Nat} {part : Part}
    (hpart : ps[index]? = some part) :
    part.FilledWith fun inner => m.slotText c o (.part key.text index inner) := by
  have hbase : (key, Content.parts ps) ∉ Generator.baseContents c o := by
    simp [Generator.baseContents]
  cases m with
  | holder h =>
    have hown := (List.mem_append.1 hmem).resolve_left hbase
    cases h with
    | result ok err => simp at hown
    | option value => simp at hown
    | cases types =>
      simp only [List.mem_cons, List.not_mem_nil, or_false, Prod.mk.injEq, Content.parts.injEq,
        reduceCtorEq, and_false, false_or] at hown
      rcases hown with ⟨rfl, rfl⟩ | ⟨rfl, rfl⟩ | ⟨rfl, rfl⟩ <;>
        exact filledWith_of_mem_caseParts (by decide) hpart _
  | valueObject w =>
    have hown := (List.mem_append.1 hmem).resolve_left hbase
    simp only [List.mem_cons, List.not_mem_nil, or_false, Prod.mk.injEq, Content.parts.injEq,
      reduceCtorEq, and_false, false_or] at hown
    obtain ⟨rfl, rfl⟩ := hown
    exact filledWith_of_mem_parts (List.mem_of_getElem? hpart) _
  | sequenceCollector =>
    have hown := (List.mem_append.1 hmem).resolve_left hbase
    simp only [List.mem_singleton, Prod.mk.injEq, Content.parts.injEq] at hown
    obtain ⟨rfl, rfl⟩ := hown
    exact filledWith_of_mem_rows hpart _

/-- The texts for the slots suit what is listed for the marker. -/
lemma suited (c : Candidate) (o : Options) (m : Marker) (k : Kind) :
    Content.Suited (m.contents c o) k.keys (m.slotText c o) where
  raw _ hkey _ hmem := slotText_of_mem_contents (ne_patternVersion_of_mem_keys hkey) hmem
  parts _ _ hmem _ _ hpart := filledWith_of_mem_contents hmem hpart

end Marker

namespace Generator

/-- **No text is read as a pattern.**  Filling the pattern of a built-in generator with what a
descriptor is bound to gives the text of the flat template of its kind, which depends on the number
of its rows and on whether it is to be displayed.  Into the slots of this template go the texts of
the candidate and of the options as they are: into those of a row for a case the number and the type
of this case, the name and the type parameters; into those of a row for a sequence the name, and
what is declared for this sequence. -/
theorem fill_eq_fill_flattened {g : Generator} (hg : g ∈ defaults) (c : Candidate) (o : Options)
    {d : Descriptor} (h : g.extract c o = .ok d) :
    ∃ m : Marker, g = m.family.generator ∧ c.markersIn m.family = [m] ∧
      o.filler.fill (g.pattern d) d.bindings =
        (d.kind.flattened (m.count c) c.display).fill (m.slotText c o) := by
  obtain ⟨family, rfl⟩ := mem_defaults_iff_family.1 hg
  obtain ⟨m, rfl, hmarkers, rfl, hpattern⟩ := Family.exists_marker h
  refine ⟨m, rfl, hmarkers, ?_⟩
  have hkeys : (m.descriptor c o).kind.keys ⊆ (m.contents c o).map Prod.fst := by
    intro key hkey
    rw [← m.keys_descriptor c o, (m.perm_keys_descriptor c o).mem_iff]
    exact List.mem_cons_of_mem _ hkey
  rw [hpattern, Kind.flattened, ← m.rows_contents]
  exact Template.fill_eq_fill_flatten (Kind.asksFor _) (m.entries_descriptor c o) hkeys
    (m.suited c o _)

/-- The cases, the tool and the type parameter all look like holes of the patterns, and they are
written as they are wherever they stand. -/
theorem fill_eq_fill_flattened_braces :
    let c : Candidate :=
      { name := "Lookup"
        typeParams := ["\x7bName\x7d"]
        markers := [.holder (.cases ["\x7bIndex\x7d", "\x7bFromImpls\x7d"])] }
    let o : Options := { toolchain := "\x7bVariants\x7d", serialization := .xml, style := .simple }
    ∃ d, Holder.generator ∈ defaults ∧ Holder.generator.extract c o = .ok d ∧
      o.filler.fill (Holder.generator.pattern d) d.bindings =
        Patterns.lines
          ["// @generated by \x7bVariants\x7d from `Lookup`. Do not edit.",
            "",
            "#[derive(Debug, Clone, PartialEq)]",
            "#[derive(serde::Serialize, serde::Deserialize)]",
            "#[serde(rename = \"Lookup\")]",
            "pub enum Lookup<\x7bName\x7d> \x7b",
            "    Case0(\x7bIndex\x7d),",
            "    Case1(\x7bFromImpls\x7d),",
            "\x7d",
            "",
            "impl<\x7bName\x7d> Lookup<\x7bName\x7d> \x7b",
            "    pub const CASES: usize = 2;",
            "",
            "    pub fn index(&self) -> usize \x7b",
            "        match self \x7b",
            "            Self::Case0(_) => 0,",
            "            Self::Case1(_) => 1,",
            "        \x7d",
            "    \x7d",
            "\x7d",
            "",
            "impl<\x7bName\x7d> From<\x7bIndex\x7d> for Lookup<\x7bName\x7d> \x7b",
            "    fn from(value: \x7bIndex\x7d) -> Self \x7b",
            "        Self::Case0(value)",
            "    \x7d",
            "\x7d",
            "",
            "impl<\x7bName\x7d> From<\x7bFromImpls\x7d> for Lookup<\x7bName\x7d> \x7b",
            "    fn from(value: \x7bFromImpls\x7d) -> Self \x7b",
            "        Self::Case1(value)",
            "    \x7d",
            "\x7d"] := by
  intro c o
  have hname : isTypeName c.name = true := by decide +kernel
  have hsound : Holder.Sound (.cases ["\x7bIndex\x7d", "\x7bFromImpls\x7d"]) := by
    unfold Holder.Sound
    decide
  have hextract : Holder.generator.extract c o = .ok (Holder.descriptor c o _) :=
    Holder.extract_eq_ok_iff.2 ⟨hname, _, rfl, hsound, rfl⟩
  have hdefault : Holder.generator ∈ defaults := List.mem_cons_self
  refine ⟨_, hdefault, hextract, ?_⟩
  obtain ⟨m, hgenerator, hmarkers, htext⟩ := fill_eq_fill_flattened hdefault c o hextract
  obtain rfl : m = .holder (.cases ["\x7bIndex\x7d", "\x7bFromImpls\x7d"]) := by
    have hnames := congrArg Generator.name hgenerator
    cases m with
    | holder h => exact (List.singleton_inj.1 hmarkers).symm
    | valueObject w => exact absurd (show "holder" = "value-object" from hnames) (by decide)
    | sequenceCollector => exact absurd (show "holder" = "sequences" from hnames) (by decide)
  rw [htext, ← String.toList_inj, Template.toList_fill]
  show (Kind.multiResultHolder.flattened 2 false).flatMap _ = _
  simp only [Kind.flattened, Template.flatten, Template.ofPattern, Piece.ofPattern, Kind.pattern,
    Patterns.multiResultHolder, String.toList_append, Patterns.toList_lines, List.flatMap_cons,
    List.flatMap_nil]
  repeat rw [String.toList_ofList]
  decide +kernel

end Generator

end Stencil
