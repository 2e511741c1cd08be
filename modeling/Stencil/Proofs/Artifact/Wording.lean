import Mathlib
import Stencil.Artifact.Extraction

/-!
# How reasons are worded

Whoever asks why there is no artifact for a candidate gets a text.  The text of a reason is a
phrase: two fixed texts, and between them the name, the number or the type that is at fault, as it
is.

No two defects are worded alike, whatever is named between the fixed texts: of two different pairs
of fixed texts, either none of the first ones is a start of the other one, or none of the second
ones is an end of the other one.  So nothing is lost where a defect is kept as a text.

The main results are

* `Skip.message_eq`: the text of a reason is its phrase;
* `Defect.eq_of_message_eq`: the text of a defect tells the defect.
-/

namespace Stencil

/-- A text in which something is named. -/
structure Phrase where
  /-- The fixed text in front of what is named. -/
  front : String
  named : String
  /-- The fixed text behind what is named. -/
  back : String

namespace Phrase

/-- A phrase as a text. -/
def text (p : Phrase) : String := p.front ++ p.named ++ p.back

/-- A phrase behind a text. -/
def behind (lead : String) (p : Phrase) : Phrase := { p with front := lead ++ p.front }

/-- The fixed texts of a phrase. -/
def frame (p : Phrase) : List Char × List Char := (p.front.toList, p.back.toList)

lemma text_behind (lead : String) (p : Phrase) : (p.behind lead).text = lead ++ p.text := by
  simp only [text, behind, String.append_assoc]

/-- If two phrases are the same text, one of them starts like the other one starts, and one of them
ends like the other one ends. -/
lemma comparable_of_text_eq {p q : Phrase} (h : p.text = q.text) :
    (p.frame.1 <+: q.frame.1 ∨ q.frame.1 <+: p.frame.1) ∧
      (p.frame.2 <:+ q.frame.2 ∨ q.frame.2 <:+ p.frame.2) := by
  have hlist := congrArg String.toList h
  simp only [text, String.toList_append] at hlist
  constructor
  · rw [List.append_assoc, List.append_assoc] at hlist
    exact List.prefix_or_prefix_of_prefix (List.prefix_append _ _) ⟨_, hlist.symm⟩
  · exact List.suffix_or_suffix_of_suffix (List.suffix_append _ _) ⟨_, hlist.symm⟩

/-- From the fixed texts and the whole text one can tell what is named. -/
lemma eq_of_frame_eq {p q : Phrase} (hframe : p.frame = q.frame) (h : p.text = q.text) : p = q := by
  obtain ⟨front, named, back⟩ := p
  obtain ⟨front', named', back'⟩ := q
  simp only [frame, Prod.mk.injEq, String.toList_inj] at hframe
  obtain ⟨rfl, rfl⟩ := hframe
  simp only [text, String.append_left_inj, String.append_right_inj] at h
  rw [h]

end Phrase

/-! ## Defects -/

namespace Defect

/-- The phrase for a defect, if it is not worded by others. -/
def phrase? : Defect → Option Phrase
  | typeName name => some ⟨"'", name, "' is not a type name"⟩
  | caseCount count => some ⟨"multi-result holder needs 2 to 8 cases, got ", toString count, ""⟩
  | repeatedCase type => some ⟨"case type '", type, "' appears more than once"⟩
  | blankInner => some ⟨"value object has no inner type", "", ""⟩
  | noSequences => some ⟨"no sequences declared", "", ""⟩
  | sequenceName name => some ⟨"'", name, "' is not a sequence name"⟩
  | zeroIncrement name => some ⟨"sequence '", name, "' has a zero increment"⟩
  | repeatedSequence name => some ⟨"sequence '", name, "' is declared more than once"⟩
  | unbindable _ | stated _ => none

variable {d e : Defect} {p q : Phrase}

lemma message_eq (h : d.phrase? = some p) : d.message = p.text := by
  cases d with
  | caseCount count =>
    -- the two bounds are written out before the texts are put together
    have hbounds : "multi-result holder needs " ++ toString fewestCases ++ " to " ++
        toString mostCases ++ " cases, got " = "multi-result holder needs 2 to 8 cases, got " := by
      decide
    cases h
    show "multi-result holder needs " ++ toString fewestCases ++ " to " ++ toString mostCases ++
      " cases, got " ++ toString count = _
    rw [hbounds, Phrase.text, String.append_empty]
  | _ => cases h <;> rfl

/-- The fixed texts of all phrases. -/
def frames : List (List Char × List Char) :=
  [typeName "", caseCount 0, repeatedCase "", blankInner, noSequences, sequenceName "",
    zeroIncrement "", repeatedSequence ""].filterMap fun d => d.phrase?.map Phrase.frame

lemma frame_mem_frames (h : d.phrase? = some p) : p.frame ∈ frames := by
  cases d <;> cases h <;> simp [frames, phrase?, Phrase.frame]

/-- Fixed texts of which both can stand in the same text are the same. -/
lemma eq_of_mem_frames : ∀ a ∈ frames, ∀ b ∈ frames, (a.1 <+: b.1 ∨ b.1 <+: a.1) →
    (a.2 <:+ b.2 ∨ b.2 <:+ a.2) → a = b := by
  decide +kernel

lemma eq_of_phrase?_eq (hd : d.phrase?.isSome = true) (h : d.phrase? = e.phrase?) : d = e := by
  cases d <;> cases e <;> simp_all [phrase?, Nat.repr_inj]

/-- **Defects are told by their texts.**  Two defects with phrases that have the same text are the
same, with the same name or number. -/
theorem eq_of_message_eq (hd : d.phrase? = some p) (he : e.phrase? = some q)
    (h : d.message = e.message) : d = e := by
  rw [message_eq hd, message_eq he] at h
  obtain ⟨hfront, hback⟩ := Phrase.comparable_of_text_eq h
  have hframe := eq_of_mem_frames _ (frame_mem_frames hd) _ (frame_mem_frames he) hfront hback
  obtain rfl := Phrase.eq_of_frame_eq hframe h
  exact eq_of_phrase?_eq (by rw [hd, Option.isSome_some]) (hd.trans he.symm)

end Defect

/-! ## Reasons -/

namespace Skip

/-- The phrase for a reason, if it is not worded by others. -/
def phrase? : Skip → Option Phrase
  | noMarker => some ⟨"no matching marker", "", ""⟩
  | ambiguousMarkers count => some ⟨"", toString count, " markers found, expected exactly one"⟩
  | notApplicable => some ⟨"rule does not apply", "", ""⟩
  | invalidFacts defect => defect.phrase?.map (Phrase.behind "invalid facts: ")

lemma message_eq {s : Skip} {p : Phrase} (h : s.phrase? = some p) : s.message = p.text := by
  cases s with
  | noMarker => cases h; rfl
  | ambiguousMarkers count => cases h; rfl
  | notApplicable => cases h; rfl
  | invalidFacts defect =>
    obtain ⟨q, hq, rfl⟩ := Option.map_eq_some_iff.1 h
    rw [Phrase.text_behind, ← Defect.message_eq hq]
    rfl

end Skip

end Stencil
