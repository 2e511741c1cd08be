import Stencil.Proofs.Generator.Extraction
import Stencil.Proofs.Generator.Holes

/-!
# What descriptors are bound to

The built-in generators bind a key either to a text of the candidate or of the options as it is, or
to snippets that are filled first and written one behind the other.  Which of the two, and with
what the snippets are filled, is said here by a list for each marker (`Marker.contents`).  The list
is what can be looked at in place of the three extractions.

The main results are

* `Family.exists_marker`: a descriptor comes from the one marker of its family;
* `Marker.entries_descriptor`: the bindings of the descriptor are the listed contents;
* `Marker.perm_keys_descriptor`: the keys are those of the kind and the version of the patterns;
* `Marker.keys_subset_of_mem_contents`: a snippet is filled with all that it has holes for.
-/

namespace Stencil

/-! ## Contents -/

/-- A snippet with what it is filled with. -/
structure Part where
  snippet : Snippet
  bindings : Bindings

/-- The text of a part. -/
def Part.fill (f : Filler) (part : Part) : String := f.fill part.snippet.pattern part.bindings

/-- What a key stands for. -/
inductive Content where
  /-- A text as it is, or none. -/
  | raw (text : Option String)
  /-- The texts of parts, one behind the other. -/
  | parts (parts : List Part)

namespace Content

/-- The value that a key is bound to. -/
def value (f : Filler) : Content → Option String
  | raw text => text
  | parts ps => some (String.join (ps.map (Part.fill f)))

/-- The parts in a content. -/
def partList : Content → List Part
  | raw _ => []
  | parts ps => ps

end Content

variable {c : Candidate} {o : Options}

namespace Generator

/-- What all built-in descriptors have in common. -/
def baseContents (c : Candidate) (o : Options) : List (Key × Content) :=
  [(.name, .raw (some c.name)), (.generics, .raw (some c.generics)),
    (.visibility, .raw (some c.visibility.lead)), (.patternVersion, .raw (some Patterns.version)),
    (.header, .raw (if o.header then some (headerText c o) else none))]

end Generator

namespace Holder

/-- A snippet for each case in order. -/
def caseParts (s : Snippet) (c : Candidate) (types : List String) : List Part :=
  types.mapIdx fun index type => ⟨s, caseBindings c type index⟩

lemma join_caseParts (f : Filler) (s : Snippet) (c : Candidate) (types : List String) :
    String.join ((caseParts s c types).map (Part.fill f)) = fillCases f s.pattern c types := by
  rw [caseParts, fillCases, List.mapIdx_eq_zipIdx_map, List.mapIdx_eq_zipIdx_map, List.map_map]
  rfl

/-- The snippets of cases are filled with all that they have holes for. -/
lemma keys_subset_of_mem_caseParts {s : Snippet} {types : List String} {part : Part}
    (hs : s.keys ⊆ [.index, .type, .name, .generics]) (h : part ∈ caseParts s c types) :
    part.snippet.keys ⊆ part.bindings.table.keys := by
  obtain ⟨index, -, rfl⟩ := List.mem_mapIdx.1 h
  exact hs

/-- What the descriptor of a holder is bound to. -/
def contents (c : Candidate) (o : Options) (h : Holding) : List (Key × Content) :=
  Generator.baseContents c o ++
    (.attributes, .raw (some (Generator.attributeText c.name o.serialization none))) ::
    match h with
    | .result ok err => [(.ok, .raw (some ok)), (.err, .raw (some err))]
    | .option value => [(.value, .raw (some value))]
    | .cases types =>
      [(.count, .raw (some (toString types.length))),
        (.variants, .parts (caseParts .caseVariant c types)),
        (.indexArms, .parts (caseParts .caseIndexArm c types)),
        (.fromImpls, .parts (caseParts .caseConversion c types))]

end Holder

namespace ValueObject

/-- The snippets that all value objects have, and the one for displaying it if it is wanted. -/
def parts (c : Candidate) (o : Options) (w : Wrapping) : List Part :=
  ⟨.valueObjectCommon, partBindings c o w⟩ ::
    if c.display then [⟨.valueObjectDisplay, partBindings c o w⟩] else []

lemma join_parts (c : Candidate) (o : Options) (w : Wrapping) :
    String.join ((parts c o w).map (Part.fill o.filler)) = commonParts c o w := by
  unfold parts commonParts
  cases c.display <;> simp [Part.fill, Snippet.pattern]

/-- The snippets of value objects are filled with all that they have holes for. -/
lemma keys_subset_of_mem_parts {w : Wrapping} {part : Part} (h : part ∈ parts c o w) :
    part.snippet.keys ⊆ part.bindings.table.keys := by
  have hbound : [Key.name, .generics, .inner] ⊆ (partBindings c o w).table.keys := by
    show [Key.name, .generics, .inner] ⊆
      [Key.name, .generics, .visibility, .patternVersion, .header, .inner, .attributes]
    decide
  unfold parts at h
  rcases List.mem_cons.1 h with rfl | h
  · exact hbound
  · cases hdisplay : c.display with
    | false => simp [hdisplay] at h
    | true =>
      obtain rfl : part = ⟨.valueObjectDisplay, partBindings c o w⟩ := by simpa [hdisplay] using h
      exact hbound

/-- What the descriptor of a value object is bound to. -/
def contents (c : Candidate) (o : Options) (w : Wrapping) : List (Key × Content) :=
  Generator.baseContents c o ++
    [(.inner, .raw (some w.inner)),
      (.attributes, .raw
        (some (Generator.attributeText c.name o.serialization (some (serializationMode w))))),
      (.commonImpls, .parts (parts c o w))]

end ValueObject

namespace Sequences

/-- A row for each sequence in order. -/
def parts (c : Candidate) : List Part :=
  c.sequences.map fun s => ⟨.sequenceEntry, rowBindings c s⟩

lemma join_parts (f : Filler) (c : Candidate) :
    String.join ((parts c).map (Part.fill f)) = rows f c := by
  rw [parts, List.map_map, rows]
  rfl

/-- A row is filled with all that it has holes for. -/
lemma keys_subset_of_mem_parts {part : Part} (h : part ∈ parts c) :
    part.snippet.keys ⊆ part.bindings.table.keys := by
  obtain ⟨s, -, rfl⟩ := List.mem_map.1 h
  exact List.Subset.refl [Key.name, .sequenceName, .schema, .start, .increment]

/-- What the descriptor of a collector is bound to. -/
def contents (c : Candidate) (o : Options) : List (Key × Content) :=
  Generator.baseContents c o ++ [(.entries, .parts (parts c))]

end Sequences

/-! ## Markers and their descriptors -/

/-- The built-in generator that serves a family of markers. -/
def Family.generator : Family → Generator
  | holder => Holder.generator
  | valueObject => ValueObject.generator
  | sequence => Sequences.generator

lemma Generator.mem_defaults_iff_family {g : Generator} :
    g ∈ defaults ↔ ∃ family : Family, g = family.generator := by
  rw [mem_defaults_iff]
  constructor
  · rintro (rfl | rfl | rfl)
    · exact ⟨.holder, rfl⟩
    · exact ⟨.valueObject, rfl⟩
    · exact ⟨.sequence, rfl⟩
  · rintro ⟨family, rfl⟩
    cases family with
    | holder => exact Or.inl rfl
    | valueObject => exact Or.inr (Or.inl rfl)
    | sequence => exact Or.inr (Or.inr rfl)

namespace Marker

/-- The descriptor of the artifact that a marker asks for. -/
def descriptor (c : Candidate) (o : Options) : Marker → Descriptor
  | holder h => Holder.descriptor c o h
  | valueObject w => ValueObject.descriptor c o w
  | sequenceCollector => Sequences.descriptor c o

/-- What that descriptor is bound to. -/
def contents (c : Candidate) (o : Options) : Marker → List (Key × Content)
  | holder h => Holder.contents c o h
  | valueObject w => ValueObject.contents c o w
  | sequenceCollector => Sequences.contents c o

end Marker

/-- A built-in generator describes an artifact for the one marker of its family. -/
theorem Family.exists_marker {family : Family} {d : Descriptor}
    (h : family.generator.extract c o = .ok d) :
    ∃ m : Marker, m.family = family ∧ c.markersIn family = [m] ∧ d = m.descriptor c o ∧
      family.generator.pattern d = d.kind.pattern := by
  cases family with
  | holder =>
    obtain ⟨-, holding, hmarkers, -, rfl⟩ := Holder.extract_eq_ok_iff.1 h
    exact ⟨_, rfl, hmarkers, rfl, by cases holding <;> rfl⟩
  | valueObject =>
    obtain ⟨-, w, hmarkers, -, rfl⟩ := ValueObject.extract_eq_ok_iff.1 h
    refine ⟨_, rfl, hmarkers, rfl, ?_⟩
    show ValueObject.pattern (ValueObject.descriptor c o w) = (ValueObject.kind w).pattern
    unfold ValueObject.pattern ValueObject.descriptor ValueObject.kind
    cases w.validated <;> rfl
  | sequence =>
    obtain ⟨-, hmarkers, -, rfl⟩ := Sequences.extract_eq_ok_iff.1 h
    exact ⟨_, rfl, hmarkers, rfl, rfl⟩

namespace Marker

/-- The bindings of a descriptor are the contents that are listed for its marker. -/
theorem entries_descriptor (c : Candidate) (o : Options) (m : Marker) :
    (m.descriptor c o).bindings.table.entries =
      (m.contents c o).map fun entry => (entry.1, entry.2.value o.filler) := by
  cases m with
  | holder h =>
    cases h with
    | result ok err => rfl
    | option value => rfl
    | cases types =>
      simp only [contents, Holder.contents, List.map_append, List.map_cons, List.map_nil,
        Content.value, Holder.join_caseParts]
      rfl
  | valueObject w =>
    simp only [contents, ValueObject.contents, List.map_append, List.map_cons, List.map_nil,
      Content.value, ValueObject.join_parts]
    rfl
  | sequenceCollector =>
    simp only [contents, Sequences.contents, List.map_append, List.map_cons, List.map_nil,
      Content.value, Sequences.join_parts]
    rfl

lemma keys_descriptor (c : Candidate) (o : Options) (m : Marker) :
    (m.descriptor c o).bindings.table.keys = (m.contents c o).map Prod.fst := by
  rw [Table.keys, entries_descriptor, List.map_map]
  rfl

/-- The keys of a descriptor are those of its kind, and that of the version of the patterns. -/
theorem perm_keys_descriptor (c : Candidate) (o : Options) (m : Marker) :
    (m.descriptor c o).bindings.table.keys.Perm
      (.patternVersion :: (m.descriptor c o).kind.keys) := by
  have hmiddle : ∀ rest : List Key,
      ([Key.name, .generics, .visibility] ++ .patternVersion :: rest).Perm
        (.patternVersion :: ([Key.name, .generics, .visibility] ++ rest)) :=
    fun _ => List.perm_middle
  rw [keys_descriptor]
  cases m with
  | holder h => cases h <;> exact hmiddle _
  | valueObject w =>
    show List.Perm _ (_ :: (ValueObject.kind w).keys)
    unfold ValueObject.kind
    cases w.validated <;> exact hmiddle _
  | sequenceCollector => exact hmiddle _

/-- A part of a descriptor is filled with all that its snippet has holes for. -/
theorem keys_subset_of_mem_contents {m : Marker} {entry : Key × Content}
    (hentry : entry ∈ m.contents c o) {part : Part} (hpart : part ∈ entry.2.partList) :
    part.snippet.keys ⊆ part.bindings.table.keys := by
  -- only keys of the generator's own stand for parts, and of these only the ones for rows
  have hbase : entry ∉ Generator.baseContents c o := by
    intro hmem
    simp only [Generator.baseContents, List.mem_cons, List.not_mem_nil, or_false] at hmem
    rcases hmem with rfl | rfl | rfl | rfl | rfl <;> cases hpart
  cases m with
  | holder h =>
    have hown := (List.mem_append.1 hentry).resolve_left hbase
    cases h with
    | result ok err =>
      simp only [List.mem_cons, List.not_mem_nil, or_false] at hown
      rcases hown with rfl | rfl | rfl <;> cases hpart
    | option value =>
      simp only [List.mem_cons, List.not_mem_nil, or_false] at hown
      rcases hown with rfl | rfl <;> cases hpart
    | cases types =>
      simp only [List.mem_cons, List.not_mem_nil, or_false] at hown
      rcases hown with rfl | rfl | rfl | rfl | rfl
      · cases hpart
      · cases hpart
      · exact Holder.keys_subset_of_mem_caseParts (by decide) hpart
      · exact Holder.keys_subset_of_mem_caseParts (by decide) hpart
      · exact Holder.keys_subset_of_mem_caseParts (by decide) hpart
  | valueObject w =>
    have hown := (List.mem_append.1 hentry).resolve_left hbase
    simp only [List.mem_cons, List.not_mem_nil, or_false] at hown
    rcases hown with rfl | rfl | rfl
    · cases hpart
    · cases hpart
    · exact ValueObject.keys_subset_of_mem_parts hpart
  | sequenceCollector =>
    have hown := (List.mem_append.1 hentry).resolve_left hbase
    obtain rfl := List.mem_singleton.1 hown
    exact Sequences.keys_subset_of_mem_parts hpart

end Marker

end Stencil
