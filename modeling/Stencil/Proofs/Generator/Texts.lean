import Stencil.Generator.Defaults
import Stencil.Proofs.Pattern.Pieces
import Stencil.Proofs.Text.Delimited

/-!
# The texts that descriptors are made with

The cases of a holder and the rows of a sequence table are not bound one by one.  They are filled
into patterns of their own, and what is bound is the whole text.  This module shows that no case
and no row gets lost in it.

Case types are arbitrary text, and one row of cases alone does not tell them: a type may hold the
closing bracket behind it and go on like the next case.  But the types are written a second time,
in the conversions, with another character behind them, and a text cannot go on with both.  The
rows of a table can be read from the front: a name holds no quote, a schema is quoted, and numbers
end where their digits end.

The main results are

* `Holder.eq_of_fillCases_eq`: the cases and the conversions together tell the types;
* `Sequences.sequences_eq_of_rows_eq`: the rows tell the sequences.
-/

namespace Stencil

/-- If a pattern has a hole with a stop behind it, what is filled into the hole is written behind
a fixed start with the stop behind it, as long as the hole in front of it is always filled alike. -/
lemma Filler.stopsAt_fill {f : Filler} {pattern before between : String} {fixed key : Key}
    {value : Option String} {stop : Char}
    (hpieces : Piece.literal before ++ Piece.hole fixed.chars :: Piece.literal between ++
      [Piece.hole key.chars, Piece.char stop] <+: Piece.ofPattern f.bound pattern)
    {b : String → Bindings} (hfixed : ∀ text, (b text).get? fixed.text = some value)
    (hkey : ∀ text, (b text).get? key.text = some (some text)) :
    Text.StopsAt stop fun text => f.fill pattern (b text) := by
  obtain ⟨rest, hrest⟩ := hpieces
  refine ⟨before.toList ++ ((value.getD "").toList ++ between.toList), ?_⟩
  intro text
  refine ⟨rest.flatMap (Piece.fill (b text)), ?_⟩
  simp only [Filler.toList_fill, ← hrest, List.flatMap_append, List.flatMap_cons,
    Piece.flatMap_fill_literal, Piece.fill_hole (hfixed text), Piece.fill_hole (hkey text),
    List.flatMap_nil, List.append_assoc, List.append_nil, Option.getD_some]
  rfl

/-! ## Cases of holders -/

namespace Holder

section Cases

variable (c : Candidate) (index : Nat)

/-- Behind the type of a case a round bracket is closed. -/
lemma stopsAt_caseVariant (style : Style) :
    Text.StopsAt ')' fun type =>
      (Filler.ofStyle style).fill Patterns.caseVariant (caseBindings c type index) := by
  have hpieces : Piece.literal "    Case" ++ Piece.hole Key.index.chars :: Piece.literal "(" ++
      [Piece.hole Key.type.chars, Piece.char ')'] <+:
      Piece.ofPattern (Filler.ofStyle style).bound Patterns.caseVariant := by
    simp only [Piece.ofPattern, Piece.literal, Patterns.caseVariant, Patterns.lines,
      String.toList_append]
    repeat rw [String.toList_ofList]
    cases style <;> decide +kernel
  have hindex : ∀ type, (caseBindings c type index).get? Key.index.text =
      some (some (toString index)) := fun _ => rfl
  exact Filler.stopsAt_fill hpieces hindex fun _ => rfl

/-- Behind the type that is converted an angle bracket is closed. -/
lemma stopsAt_caseConversion (style : Style) :
    Text.StopsAt '>' fun type =>
      (Filler.ofStyle style).fill Patterns.caseConversion (caseBindings c type index) := by
  have hpieces : Piece.literal "\nimpl" ++ Piece.hole Key.generics.chars ::
      Piece.literal " From<" ++ [Piece.hole Key.type.chars, Piece.char '>'] <+:
      Piece.ofPattern (Filler.ofStyle style).bound Patterns.caseConversion := by
    simp only [Piece.ofPattern, Piece.literal, Patterns.caseConversion, Patterns.lines,
      String.toList_append]
    repeat rw [String.toList_ofList]
    cases style <;> decide +kernel
  have hgenerics : ∀ type, (caseBindings c type index).get? Key.generics.text =
      some (some c.generics) := fun _ => rfl
  exact Filler.stopsAt_fill hpieces hgenerics fun _ => rfl

end Cases

/-- The cases and the conversions of a holder together tell the types of all cases. -/
theorem eq_of_fillCases_eq {style : Style} {c : Candidate} {types others : List String}
    (hvariants : fillCases (Filler.ofStyle style) Patterns.caseVariant c types =
      fillCases (Filler.ofStyle style) Patterns.caseVariant c others)
    (hconversions : fillCases (Filler.ofStyle style) Patterns.caseConversion c types =
      fillCases (Filler.ofStyle style) Patterns.caseConversion c others) : types = others :=
  Text.StopsAt.eq_of_join_mapIdx_eq (by decide) (fun index => stopsAt_caseVariant c index style)
    (fun index => stopsAt_caseConversion c index style) hvariants hconversions

/-- The parts for the cases depend on the name and the type parameters of the candidate only. -/
lemma fillCases_congr {f g : Candidate} (hname : f.name = g.name)
    (hgenerics : f.generics = g.generics) (filler : Filler) (pattern : String) :
    fillCases filler pattern f = fillCases filler pattern g := by
  funext types
  simp only [fillCases, caseBindings, hname, hgenerics]

end Holder

/-! ## Value objects -/

namespace ValueObject

/-- The part for displaying a value object is never empty. -/
lemma fill_valueObjectDisplay_ne_empty (style : Style) (b : Bindings) :
    (Filler.ofStyle style).fill Patterns.valueObjectDisplay b ≠ "" := by
  have hpieces : [Piece.char '\n'] <+:
      Piece.ofPattern (Filler.ofStyle style).bound Patterns.valueObjectDisplay := by
    simp only [Piece.ofPattern, Patterns.valueObjectDisplay, Patterns.lines, String.toList_append]
    repeat rw [String.toList_ofList]
    cases style <;> decide +kernel
  obtain ⟨rest, hrest⟩ := hpieces
  intro hempty
  have hlist := Filler.toList_fill (Filler.ofStyle style) Patterns.valueObjectDisplay b
  rw [hempty, ← hrest] at hlist
  cases hlist

end ValueObject

/-! ## Rows of sequences -/

namespace Sequences

lemma toList_row (style : Style) (c : Candidate) (s : NumberSequence) :
    ((Filler.ofStyle style).fill Patterns.sequenceEntry (rowBindings c s)).toList =
      "        ".toList ++ (c.name.toList ++ ("Sequence \x7b name: \"".toList ++
        (s.name.toList ++ '"' :: (", schema: ".toList ++ ((schemaText s.schema).toList ++
          (", start: ".toList ++ ((toString s.start).toList ++ ',' :: (" increment: ".toList ++
            ((toString s.increment).toList ++ ' ' :: "\x7d,\n".toList))))))))) := by
  have hpieces : Piece.ofPattern (Filler.ofStyle style).bound Patterns.sequenceEntry =
      Piece.literal "        " ++ (Piece.hole Key.name.chars ::
        (Piece.literal "Sequence \x7b name: \"" ++ (Piece.hole Key.sequenceName.chars ::
          Piece.char '"' :: (Piece.literal ", schema: " ++ (Piece.hole Key.schema.chars ::
            (Piece.literal ", start: " ++ (Piece.hole Key.start.chars :: Piece.char ',' ::
              (Piece.literal " increment: " ++ (Piece.hole Key.increment.chars ::
                Piece.char ' ' :: Piece.literal "\x7d,\n"))))))))) := by
    simp only [Piece.ofPattern, Piece.literal, Patterns.sequenceEntry, Patterns.lines,
      String.toList_append]
    repeat rw [String.toList_ofList]
    cases style <;> decide +kernel
  have hname : (rowBindings c s).get? Key.name.text = some (some c.name) := rfl
  have hsequence : (rowBindings c s).get? Key.sequenceName.text = some (some s.name) := rfl
  have hschema : (rowBindings c s).get? Key.schema.text = some (some (schemaText s.schema)) := rfl
  have hstart : (rowBindings c s).get? Key.start.text = some (some (toString s.start)) := rfl
  have hincrement : (rowBindings c s).get? Key.increment.text =
      some (some (toString s.increment)) := rfl
  simp only [Filler.toList_fill, hpieces, List.flatMap_append, List.flatMap_cons,
    Piece.flatMap_fill_literal, Piece.fill_hole hname, Piece.fill_hole hsequence,
    Piece.fill_hole hschema, Piece.fill_hole hstart, Piece.fill_hole hincrement]
  rfl

/-- A schema is written in quotes, and the lack of one without. -/
lemma selfDelimiting_schemaText :
    Text.SelfDelimiting Set.univ fun schema => (schemaText schema).toList := by
  have hsome : ∀ schema, (schemaText (some schema)).toList =
      "Some(".toList ++ ((Text.quote schema).toList ++ [')']) := fun _ => by
    simp [schemaText]
  have hdiffer : ∀ schema rest rest', (schemaText none).toList ++ rest ≠
      (schemaText (some schema)).toList ++ rest' := by
    intro schema rest rest' h
    rw [hsome] at h
    cases h
  rintro x - y - rest rest' h
  rcases x with _ | x <;> rcases y with _ | y
  · exact ⟨rfl, List.append_cancel_left h⟩
  · exact absurd h (hdiffer y _ _)
  · exact absurd h.symm (hdiffer x _ _)
  · simp only [hsome, List.append_assoc] at h
    obtain ⟨rfl, htail⟩ := Text.selfDelimiting_quote trivial trivial (List.append_cancel_left h)
    exact ⟨rfl, List.append_cancel_left htail⟩

lemma quote_notMem_of_isName {name : String} (h : isName name = true) : '"' ∉ name.toList := by
  have hquote : Generator.isNameChar '"' = false := by decide +kernel
  rw [isName, Bool.and_eq_true, List.all_eq_true] at h
  intro hmem
  rw [h.2 _ hmem] at hquote
  cases hquote

/-- Rows of sequences with names can be read from the front. -/
lemma selfDelimiting_row (style : Style) (c : Candidate) :
    Text.SelfDelimiting {s : NumberSequence | isName s.name = true} fun s =>
      ((Filler.ofStyle style).fill Patterns.sequenceEntry (rowBindings c s)).toList := by
  have hnumber : ∀ (i : Int64) (stop : Char), stop ≠ '-' → stop.isDigit = false →
      stop ∉ (toString i).toList := by
    intro i stop hsign hdigit hmem
    rcases Text.mem_toString_int64 hmem with h | h
    · exact hsign h
    · rw [h] at hdigit
      cases hdigit
  intro s hs t ht rest rest' h
  simp only [toList_row, List.append_assoc, List.cons_append] at h
  have hnames := List.append_cancel_left (List.append_cancel_left (List.append_cancel_left h))
  obtain ⟨hname, hschemas⟩ := Text.eq_of_append_stop (quote_notMem_of_isName hs)
    (quote_notMem_of_isName ht) hnames
  obtain ⟨hschema, hstarts⟩ := selfDelimiting_schemaText trivial trivial
    (List.append_cancel_left hschemas)
  obtain ⟨hstart, hincrements⟩ := Text.eq_of_append_stop
    (hnumber s.start ',' (by decide) (by decide)) (hnumber t.start ',' (by decide) (by decide))
    (List.append_cancel_left hstarts)
  obtain ⟨hincrement, hend⟩ := Text.eq_of_append_stop
    (hnumber s.increment ' ' (by decide) (by decide))
    (hnumber t.increment ' ' (by decide) (by decide)) (List.append_cancel_left hincrements)
  refine ⟨?_, List.append_cancel_left hend⟩
  rw [NumberSequence.mk.injEq]
  exact ⟨String.toList_inj.1 hname, hschema, Text.toString_int64_injective hstart,
    Text.toString_int64_injective hincrement⟩

lemma rowBindings_congr {f g : Candidate} (hname : f.name = g.name) :
    rowBindings f = rowBindings g := by
  funext s
  rw [rowBindings, rowBindings, hname]

/-- The rows tell all sequences in their order. -/
theorem sequences_eq_of_rows_eq {style : Style} {f g : Candidate} (hname : f.name = g.name)
    (hf : ∀ s ∈ f.sequences, isName s.name = true) (hg : ∀ s ∈ g.sequences, isName s.name = true)
    (h : rows (Filler.ofStyle style) f = rows (Filler.ofStyle style) g) :
    f.sequences = g.sequences := by
  -- every row starts with a blank, which is no quote
  have hstop : ∀ s ∈ {s : NumberSequence | isName s.name = true}, ∃ c cs,
      ((Filler.ofStyle style).fill Patterns.sequenceEntry (rowBindings g s)).toList = c :: cs ∧
        c ≠ '"' := by
    intro s _
    rw [toList_row]
    exact ⟨' ', _, rfl, by decide⟩
  refine (selfDelimiting_row style g).flatMap_injOn hstop hf hg ?_
  have hlists := congrArg String.toList h
  rw [rows, rows, rowBindings_congr hname, String.toList_join, String.toList_join,
    List.flatMap_map, List.flatMap_map] at hlists
  exact hlists

end Sequences

end Stencil
