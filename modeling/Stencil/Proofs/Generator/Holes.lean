import Stencil.Generator.Defaults
import Stencil.Proofs.Pattern.Refilling
import Stencil.Proofs.Pattern.Template

/-!
# The holes of the built-in patterns

Each kind of artifact has a pattern, and some artifacts have parts with patterns of their own, here
called snippets.  For all of them the keys are listed that they have holes for.  The patterns are
fixed texts, so the lists are checked by reading the patterns.

The main results are

* `Kind.asksFor`, `Snippet.asksFor`: the names of the holes, and that both styles read all of them;
* `Kind.braceSafe`, `Snippet.braceSafe`: the braces that open no hole stand alone;
* `AsksFor.between_eq`: the coverage by bindings that have one key more than there are holes for.
-/

namespace Stencil

/-! ## Holes for keys -/

/-- A pattern has holes for some keys and for nothing else, and fillers of both styles read it
alike. -/
structure AsksFor (pattern : String) (keys : List Key) : Prop where
  template_eq : ∀ style, Template.ofPattern (Filler.ofStyle style).bound pattern =
    Template.ofPattern Key.maxLength pattern
  mem_slots_iff : ∀ name, name ∈ (Template.ofPattern Key.maxLength pattern).slots ↔
    name ∈ keys.map Key.text

namespace AsksFor

variable {pattern : String} {keys : List Key}

/-- What a pattern asks for is seen from the names in it. -/
lemma of_names (hsub : Piece.names (Piece.ofPattern Key.maxLength pattern) ⊆ keys.map Key.chars)
    (hsup : keys.map Key.chars ⊆ Piece.names (Piece.ofPattern Key.maxLength pattern))
    (hlen : ∀ key ∈ keys, key.chars.length ≤ Style.simple.defaultBound) :
    AsksFor pattern keys where
  template_eq style := by
    have hnames : ∀ name ∈ Piece.names (Piece.ofPattern Key.maxLength pattern),
        name.length ≤ Style.simple.defaultBound := by
      intro name hname
      obtain ⟨key, hkey, rfl⟩ := List.mem_map.1 (hsub hname)
      exact hlen key hkey
    cases style with
    | simple => exact Template.ofPattern_eq_of_le (by decide) hnames
    | robust => rfl
  mem_slots_iff name := by
    rw [Template.ofPattern, Template.slots_map_part, List.mem_map, List.mem_map]
    constructor
    · rintro ⟨cs, hcs, rfl⟩
      obtain ⟨key, hkey, rfl⟩ := List.mem_map.1 (hsub hcs)
      exact ⟨key, hkey, key.ofList_chars.symm⟩
    · rintro ⟨key, hkey, rfl⟩
      exact ⟨key.chars, hsup (List.mem_map_of_mem hkey), key.ofList_chars⟩

end AsksFor

/-! ## Patterns of kinds -/

namespace Patterns

lemma toList_lines (ls : List String) :
    (lines ls).toList = ls.flatMap fun line => line.toList ++ ['\n'] := by
  induction ls with
  | nil => rfl
  | cons line ls ih => simp [lines, ih]

end Patterns

namespace Kind

/-- The pattern of the artifacts of a kind. -/
def pattern : Kind → String
  | resultHolder => Patterns.resultHolder
  | optionHolder => Patterns.optionHolder
  | multiResultHolder => Patterns.multiResultHolder
  | valueObject => Patterns.valueObject
  | validatableValueObject => Patterns.validatableValueObject
  | sequenceCollector => Patterns.sequenceCollector

/-- The keys that the pattern of a kind has holes for. -/
def keys : Kind → List Key
  | resultHolder => [.name, .generics, .visibility, .header, .attributes, .ok, .err]
  | optionHolder => [.name, .generics, .visibility, .header, .attributes, .value]
  | multiResultHolder =>
    [.name, .generics, .visibility, .header, .attributes, .count, .variants, .indexArms, .fromImpls]
  | valueObject | validatableValueObject =>
    [.name, .generics, .visibility, .header, .inner, .attributes, .commonImpls]
  | sequenceCollector => [.name, .generics, .visibility, .header, .entries]

/-- What is read in the pattern of a kind: the names in it, and what its braces open. -/
lemma reads (k : Kind) :
    (Piece.names (Piece.ofPattern Key.maxLength k.pattern) ⊆ k.keys.map Key.chars ∧
      k.keys.map Key.chars ⊆ Piece.names (Piece.ofPattern Key.maxLength k.pattern)) ∧
      ∀ style, BraceSafe (Filler.ofStyle style).bound k.pattern := by
  simp only [braceSafe_iff_behindBraces]
  -- the kernel reads the patterns once their lines are lists of characters
  cases k <;>
    simp only [pattern, Piece.ofPattern, Patterns.resultHolder, Patterns.optionHolder,
      Patterns.multiResultHolder, Patterns.valueObject, Patterns.validatableValueObject,
      Patterns.sequenceCollector, String.toList_append, Patterns.toList_lines,
      List.flatMap_cons, List.flatMap_nil] <;>
    repeat rw [String.toList_ofList]
  all_goals exact ⟨by decide +kernel, fun style => by cases style <;> decide +kernel⟩

/-- The pattern of a kind has holes for the keys of the kind. -/
theorem asksFor (k : Kind) : AsksFor k.pattern k.keys :=
  .of_names k.reads.1.1 k.reads.1.2 (by cases k <;> decide)

/-- In either style each opening brace of the pattern of a kind opens a hole or stands alone. -/
theorem braceSafe (k : Kind) (style : Style) :
    BraceSafe (Filler.ofStyle style).bound k.pattern := k.reads.2 style

end Kind

/-! ## Patterns of snippets -/

/-- The parts of artifacts that are filled on their own. -/
inductive Snippet where
  | caseVariant
  | caseIndexArm
  | caseConversion
  | valueObjectCommon
  | valueObjectDisplay
  | sequenceEntry
deriving DecidableEq

namespace Snippet

/-- The pattern of a snippet. -/
def pattern : Snippet → String
  | caseVariant => Patterns.caseVariant
  | caseIndexArm => Patterns.caseIndexArm
  | caseConversion => Patterns.caseConversion
  | valueObjectCommon => Patterns.valueObjectCommon
  | valueObjectDisplay => Patterns.valueObjectDisplay
  | sequenceEntry => Patterns.sequenceEntry

/-- The keys that the pattern of a snippet has holes for. -/
def keys : Snippet → List Key
  | caseVariant => [.index, .type]
  | caseIndexArm => [.index]
  | caseConversion => [.index, .type, .name, .generics]
  | valueObjectCommon | valueObjectDisplay => [.name, .generics, .inner]
  | sequenceEntry => [.name, .sequenceName, .schema, .start, .increment]

/-- What is read in the pattern of a snippet: the names in it, and what its braces open. -/
lemma reads (s : Snippet) :
    (Piece.names (Piece.ofPattern Key.maxLength s.pattern) ⊆ s.keys.map Key.chars ∧
      s.keys.map Key.chars ⊆ Piece.names (Piece.ofPattern Key.maxLength s.pattern)) ∧
      ∀ style, BraceSafe (Filler.ofStyle style).bound s.pattern := by
  simp only [braceSafe_iff_behindBraces]
  cases s <;>
    simp only [pattern, Piece.ofPattern, Patterns.caseVariant, Patterns.caseIndexArm,
      Patterns.caseConversion, Patterns.valueObjectCommon, Patterns.valueObjectDisplay,
      Patterns.sequenceEntry, String.toList_append, Patterns.toList_lines,
      List.flatMap_cons, List.flatMap_nil] <;>
    repeat rw [String.toList_ofList]
  all_goals exact ⟨by decide +kernel, fun style => by cases style <;> decide +kernel⟩

/-- The pattern of a snippet has holes for the keys of the snippet. -/
theorem asksFor (s : Snippet) : AsksFor s.pattern s.keys :=
  .of_names s.reads.1.1 s.reads.1.2 (by cases s <;> decide)

/-- In either style each opening brace of the pattern of a snippet opens a hole or stands alone. -/
theorem braceSafe (s : Snippet) (style : Style) :
    BraceSafe (Filler.ofStyle style).bound s.pattern := s.reads.2 style

end Snippet

/-! ## Coverage -/

namespace AsksFor

variable {pattern : String} {keys : List Key}

/-- In either style the placeholders that are scanned are called like the keys. -/
lemma mem_names_scan_iff (h : AsksFor pattern keys) (style : Style) {name : String} :
    (∃ p ∈ Placeholder.scan (Filler.ofStyle style).bound pattern, p.name = name) ↔
      name ∈ keys.map Key.text := by
  rw [← h.mem_slots_iff, ← h.template_eq style, Template.slots_ofPattern, List.mem_map]

variable {b : Bindings}

/-- Nothing is missing if all keys are bound. -/
lemma missing_eq_nil (h : AsksFor pattern keys) (hkeys : keys ⊆ b.table.keys) (style : Style) :
    (Coverage.between (Placeholder.scan (Filler.ofStyle style).bound pattern) b).missing = [] := by
  rw [Coverage.between, List.filter_eq_nil_iff]
  intro p hp
  obtain ⟨key, hkey, hname⟩ := List.mem_map.1 ((h.mem_names_scan_iff style).1 ⟨p, hp, rfl⟩)
  have hbound : b.contains p.name = true := by
    rw [← hname]
    exact Bindings.contains_text_iff.2 (hkeys hkey)
  simp [hbound]

/-- If one more key is bound than there are holes for, it is the only one that is not used. -/
theorem between_eq (h : AsksFor pattern keys) {extra : Key}
    (hkeys : b.table.keys.Perm (extra :: keys)) (style : Style) :
    Coverage.between (Placeholder.scan (Filler.ofStyle style).bound pattern) b =
      ⟨[], [extra.text]⟩ := by
  have hsub : keys ⊆ b.table.keys := fun key hkey =>
    hkeys.mem_iff.2 (List.mem_cons_of_mem _ hkey)
  have hextra : extra.text ∉ keys.map Key.text := by
    rw [List.mem_map_of_injective Key.text_injective]
    exact (List.nodup_cons.1 (hkeys.nodup_iff.1 b.table.nodup)).1
  have hused : ∀ name, (Placeholder.scan (Filler.ofStyle style).bound pattern).any
      (fun p => p.name == name) = decide (name ∈ keys.map Key.text) := by
    intro name
    rw [Bool.eq_iff_iff, List.any_eq_true, decide_eq_true_iff, ← h.mem_names_scan_iff style]
    simp only [beq_iff_eq]
  have hunused : (Coverage.between (Placeholder.scan (Filler.ofStyle style).bound pattern)
      b).unused = [extra.text] := by
    have hsorted : b.sortedKeys.Perm (extra.text :: keys.map Key.text) :=
      Bindings.sortedKeys_perm.trans (hkeys.map Key.text)
    have hfiltered : (extra.text :: keys.map Key.text).filter
        (fun name => !decide (name ∈ keys.map Key.text)) = [extra.text] := by
      rw [List.filter_cons_of_pos (by simpa using hextra), List.filter_eq_nil_iff.2]
      intro name hname
      simpa using hname
    simp only [Coverage.between, hused]
    exact List.perm_singleton.1 (hfiltered ▸ hsorted.filter _)
  exact congrArg₂ Coverage.mk (h.missing_eq_nil hsub style) hunused

end AsksFor

end Stencil
