import Stencil.Proofs.Generator.Decision

/-!
# The style of filling is of no consequence

The style of the options is the way in which holes are found, and it comes with a greatest length
of names.  It has a part in the text of an artifact, and in the snippets that are filled before and
bound in the descriptor.  But all holes of the built-in patterns are called like keys that are short
enough for both styles.  So whatever the holes are filled with, a built-in generator describes the
same artifact in both styles, skips the same candidates for the same reasons, and the text is the
same.

The main results are

* `AsksFor.fill_eq`: patterns with holes for short keys are filled alike in both styles;
* `Marker.descriptor_restyled`: the descriptor for a marker does not depend on the style;
* `Generator.extract_restyled`: neither do the artifacts of the built-in generators.
-/

namespace Stencil

/-! ## Patterns, snippets and contents -/

/-- Both styles fill a pattern with holes for short keys alike, be the keys bound or not. -/
lemma AsksFor.fill_eq {pattern : String} {keys : List Key} (h : AsksFor pattern keys)
    (style style' : Style) (b : Bindings) :
    (Filler.ofStyle style).fill pattern b = (Filler.ofStyle style').fill pattern b := by
  rw [Filler.fill_eq_template_fill, Filler.fill_eq_template_fill, h.template_eq style,
    h.template_eq style']

lemma Part.fill_restyled (part : Part) (style style' : Style) :
    part.fill (Filler.ofStyle style) = part.fill (Filler.ofStyle style') :=
  part.snippet.asksFor.fill_eq style style' part.bindings

lemma Content.value_restyled (content : Content) (style style' : Style) :
    content.value (Filler.ofStyle style) = content.value (Filler.ofStyle style') := by
  cases content with
  | raw text => rfl
  | parts ps =>
    have hparts : ps.map (Part.fill (Filler.ofStyle style)) =
        ps.map (Part.fill (Filler.ofStyle style')) :=
      List.map_congr_left fun part _ => part.fill_restyled style style'
    rw [value, value, hparts]

/-! ## Descriptors -/

attribute [ext] Table Bindings Descriptor

variable {c : Candidate} {o : Options}

namespace Marker

/-- What the descriptor for a marker is made of is said without the style. -/
lemma contents_restyled (c : Candidate) (o : Options) (style : Style) (m : Marker) :
    m.contents c { o with style } = m.contents c o := by
  rcases m with (_ | _ | _) | _ | _ <;> rfl

lemma entries_restyled (c : Candidate) (o : Options) (style : Style) (m : Marker) :
    (m.descriptor c { o with style }).bindings.table.entries =
      (m.descriptor c o).bindings.table.entries := by
  rw [entries_descriptor, entries_descriptor, contents_restyled]
  exact List.map_congr_left fun entry _ => Prod.ext rfl (entry.2.value_restyled style o.style)

/-- The descriptor for a marker is the same in both styles: its entries are what is listed for the
marker, and snippets are filled alike. -/
theorem descriptor_restyled (c : Candidate) (o : Options) (style : Style) (m : Marker) :
    m.descriptor c { o with style } = m.descriptor c o := by
  have hidentity : (m.descriptor c { o with style }).identity = (m.descriptor c o).identity := by
    cases m <;> rfl
  have hkind : (m.descriptor c { o with style }).kind = (m.descriptor c o).kind := by
    rw [kind_descriptor, kind_descriptor]
  have hbindings : (m.descriptor c { o with style }).bindings = (m.descriptor c o).bindings :=
    Bindings.ext (Table.ext (m.entries_restyled c o style))
  exact Descriptor.ext hidentity hkind hbindings

end Marker

/-! ## The built-in generators -/

namespace Generator

/-- **The style is of no consequence.**  Under options that differ in the style only, a built-in
generator describes the same artifact for a candidate or skips it for the same reason; and filled
in the style of either options, the pattern of a described artifact gives the same text. -/
theorem extract_restyled {g : Generator} (hg : g ∈ defaults) (c : Candidate) (o : Options)
    (style : Style) :
    g.extract c { o with style } = g.extract c o ∧
      ∀ d, g.extract c o = .ok d →
        ({ o with style } : Options).filler.fill (g.pattern d) d.bindings =
          o.filler.fill (g.pattern d) d.bindings := by
  obtain ⟨family, rfl⟩ := mem_defaults_iff_family.1 hg
  constructor
  · rw [Family.extract_eq, Family.extract_eq]
    simp only [Marker.descriptor_restyled]
  · intro d h
    obtain ⟨m, -, -, -, hpattern⟩ := Family.exists_marker h
    rw [hpattern]
    exact d.kind.asksFor.fill_eq style o.style d.bindings

/-- The cases look like holes, one of them for a name that is longer than those that the simple
style reads, and one of them is not closed. -/
theorem extract_restyled_braces :
    let c : Candidate :=
      { name := "AnswerOfTheServiceThatLooksUpPeople"
        typeParams := ["\x7bName\x7d"]
        markers := [.holder (.cases ["\x7bIndex\x7d", "\x7bAnswerOfTheServiceThatLooksUpPeople\x7d",
          "\x7bName"])] }
    ∃ d, Holder.generator ∈ defaults ∧ Holder.generator.extract c {} = .ok d ∧
      Holder.generator.extract c { style := .simple } = .ok d ∧
      (Options.filler { style := .simple }).fill (Holder.generator.pattern d) d.bindings =
        (Options.filler {}).fill (Holder.generator.pattern d) d.bindings := by
  intro c
  have hname : isTypeName c.name = true := by decide +kernel
  have hsound : Holder.Sound (.cases ["\x7bIndex\x7d",
      "\x7bAnswerOfTheServiceThatLooksUpPeople\x7d", "\x7bName"]) := by
    unfold Holder.Sound
    decide
  have hextract : Holder.generator.extract c {} = .ok (Holder.descriptor c {} _) :=
    Holder.extract_eq_ok_iff.2 ⟨hname, _, rfl, hsound, rfl⟩
  have hdefault : Holder.generator ∈ defaults := List.mem_cons_self
  obtain ⟨hsame, htext⟩ := extract_restyled hdefault c {} .simple
  exact ⟨_, hdefault, hextract, hsame.trans hextract, htext _ hextract⟩

end Generator

end Stencil
