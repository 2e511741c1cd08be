import Stencil.Proofs.Pattern.Pieces
import Stencil.Proofs.Pattern.Scan

/-!
# Filling what is filled

A filled pattern is a text and may be filled again.  This may change it: in `{{A}}` the outer braces
open nothing, but if `A` is bound to `A` they are left around it and open a placeholder then.

Nothing of this kind happens if no replacement text holds an opening brace, and each opening brace
of the pattern that opens nothing stands alone: at the end, or in front of a character that starts
neither a placeholder nor a key.  Such a character is copied, so that the brace opens nothing in the
filled pattern either.

The main results are

* `Filler.fill_fill`: filling is idempotent on such patterns;
* `Filler.fill_eq_self`: a text without opening braces stays as it is, whatever it is filled with.
-/

namespace Stencil

/-! ## Braces of a pattern -/

/-- The text ends behind an opening brace, or goes on with a character that is no opening brace and
does not start a key. -/
def StandsAlone (after : List Char) : Prop :=
  ∀ c ∈ after.head?, c ≠ '{' ∧ Key.isStart c = false

instance (after : List Char) : Decidable (StandsAlone after) :=
  show Decidable (∀ c ∈ after.head?, c ≠ '{' ∧ Key.isStart c = false) from
    after.head?.decidableForallMem

/-- Each opening brace of a pattern opens a scanned placeholder or stands alone. -/
def BraceSafe (bound : Nat) (pattern : String) : Prop :=
  ∀ before after, pattern.toList = before ++ '{' :: after →
    (∃ p ∈ Placeholder.scan bound pattern, p.offset = Text.byteLength before) ∨ StandsAlone after

/-- Each opening brace of a pattern opens a scanned placeholder whose name is bound. -/
def BracesBound (bound : Nat) (b : Bindings) (pattern : String) : Prop :=
  ∀ before after, pattern.toList = before ++ '{' :: after →
    ∃ p ∈ Placeholder.scan bound pattern,
      p.offset = Text.byteLength before ∧ b.contains p.name = true

variable {bound : Nat} {b : Bindings} {pattern : String}

lemma braceSafe_iff :
    BraceSafe bound pattern ↔ ∀ after, '{' :: after <:+ pattern.toList →
      (token? bound ('{' :: after)).isSome = true ∨ StandsAlone after := by
  constructor
  · rintro h after ⟨before, hpattern⟩
    refine (h before after hpattern.symm).imp_left ?_
    rintro ⟨p, hp, hoffset⟩
    rw [Placeholder.token?_of_mem_scan hpattern.symm hp hoffset, Option.isSome_some]
  · intro h before after hpattern
    refine (h after ⟨before, hpattern.symm⟩).imp_left fun hsome => ?_
    obtain ⟨name, htoken⟩ := Option.isSome_iff_exists.1 hsome
    obtain ⟨p, hp, hoffset, -⟩ := Placeholder.exists_mem_scan_of_token? hpattern htoken
    exact ⟨p, hp, hoffset⟩

lemma bracesBound_iff :
    BracesBound bound b pattern ↔ ∀ after, '{' :: after <:+ pattern.toList →
      (token? bound ('{' :: after)).any (fun name => b.contains (String.ofList name)) = true := by
  constructor
  · rintro h after ⟨before, hpattern⟩
    obtain ⟨p, hp, hoffset, hname⟩ := h before after hpattern.symm
    rw [Placeholder.token?_of_mem_scan hpattern.symm hp hoffset, Option.any_some,
      String.ofList_toList, hname]
  · intro h before after hpattern
    obtain ⟨name, htoken, hname⟩ := (Option.any_eq_true _ _).1 (h after ⟨before, hpattern.symm⟩)
    obtain ⟨p, hp, hoffset, hp'⟩ := Placeholder.exists_mem_scan_of_token? hpattern htoken
    exact ⟨p, hp, hoffset, hp' ▸ hname⟩

/-- What comes behind each opening brace of a text. -/
def behindBraces : List Char → List (List Char)
  | [] => []
  | c :: rest => if c = '{' then rest :: behindBraces rest else behindBraces rest

lemma mem_behindBraces_iff {cs after : List Char} :
    after ∈ behindBraces cs ↔ '{' :: after <:+ cs := by
  induction cs with
  | nil => simp [behindBraces]
  | cons c cs ih =>
    rw [behindBraces, List.suffix_cons_iff, List.cons.injEq, ← ih]
    by_cases hc : c = '{'
    · rw [if_pos hc, List.mem_cons]
      simp [hc]
    · rw [if_neg hc]
      simp [Ne.symm hc]

lemma braceSafe_iff_behindBraces :
    BraceSafe bound pattern ↔ ∀ after ∈ behindBraces pattern.toList,
      (token? bound ('{' :: after)).isSome = true ∨ StandsAlone after := by
  simp only [braceSafe_iff, mem_behindBraces_iff]

instance : Decidable (BraceSafe bound pattern) := decidable_of_iff' _ braceSafe_iff_behindBraces

instance : Decidable (BracesBound bound b pattern) :=
  decidable_of_iff' (∀ after ∈ behindBraces pattern.toList,
    (token? bound ('{' :: after)).any (fun name => b.contains (String.ofList name)) = true) <| by
      simp only [bracesBound_iff, mem_behindBraces_iff]

/-! ## Filling the filled pattern -/

lemma token?_eq_none_of_standsAlone {after : List Char} (h : StandsAlone after) :
    token? bound ('{' :: after) = none := by
  rw [token?, if_pos rfl]
  cases after with
  | nil => rfl
  | cons c rest => simp [leadingName?, (h c rfl).2]

/-- What is asked of the rest of a pattern that is filled twice: braces that open nothing stand
alone, and no opening brace is written for a placeholder. -/
structure Refillable (bound : Nat) (b : Bindings) (cs : List Char) : Prop where
  alone : ∀ after, '{' :: after <:+ cs → token? bound ('{' :: after) = none → StandsAlone after
  free : ∀ back name text, back <:+ cs → token? bound back = some name →
    b.replacement? (String.ofList name) = some text → '{' ∉ text.toList

lemma Refillable.of_suffix {cs ds : List Char} (h : Refillable bound b cs) (hds : ds <:+ cs) :
    Refillable bound b ds where
  alone after hafter := h.alone after (hafter.trans hds)
  free back name text hback := h.free back name text (hback.trans hds)

lemma Bindings.isSome_replacement? (b : Bindings) (key : String) :
    (b.replacement? key).isSome = b.contains key := Option.isSome_map

namespace Filler

variable (f : Filler)

/-- The character behind a brace that stands alone is copied. -/
lemma standsAlone_fillWith {after : List Char} (h : StandsAlone after) :
    StandsAlone (fillWith (f.hit? b) after) := by
  cases after with
  | nil => rwa [fillWith_nil]
  | cons c rest =>
    rw [fillWith_text (h c rfl).1]
    exact h

/-- What is copied is copied once more, and what is written for a placeholder is copied. -/
lemma fillWith_fillWith {cs : List Char} (h : Refillable f.bound b cs) :
    fillWith (f.hit? b) (fillWith (f.hit? b) cs) = fillWith (f.hit? b) cs := by
  induction cs using pattern_induction f.bound with
  | nil => rw [fillWith_nil, fillWith_nil]
  | text c cs htoken ih =>
    have hcopied : token? f.bound (c :: fillWith (f.hit? b) cs) = none := by
      by_cases hc : c = '{'
      · subst hc
        have halone := h.alone cs (List.suffix_refl _) htoken
        exact token?_eq_none_of_standsAlone (f.standsAlone_fillWith halone)
      · exact token?_eq_none_of_ne hc
    rw [fillWith_text_of_token?_eq_none f b htoken, fillWith_text_of_token?_eq_none f b hcopied,
      ih (h.of_suffix (List.suffix_cons c cs))]
  | token name rest hword hlen ih =>
    have hrest := ih (h.of_suffix (suffix_token name rest))
    have htoken := token?_name hword hlen rest
    rw [fillWith_token f b hword hlen]
    cases hb : b.replacement? (String.ofList name) with
    | none =>
      -- the placeholder is copied, and it is the same one in the filled pattern
      have hcopied : ("\x7b" ++ String.ofList name ++ "\x7d").toList ++ fillWith (f.hit? b) rest =
          '{' :: name ++ '}' :: fillWith (f.hit? b) rest := by simp
      rw [Option.getD_none, hcopied, fillWith_token f b hword hlen, hb, Option.getD_none, hrest,
        hcopied]
    | some text =>
      have hfree := h.free _ name text (List.suffix_refl _) htoken hb
      rw [Option.getD_some, fillWith_append fun c hc => ne_of_mem_of_not_mem hc hfree, hrest]

/-- If each opening brace opens a placeholder that is replaced, none is left. -/
lemma openBrace_notMem_fillWith {cs : List Char} (h : Refillable f.bound b cs)
    (hbound : ∀ after, '{' :: after <:+ cs → (token? f.bound ('{' :: after)).any
      (fun name => b.contains (String.ofList name)) = true) :
    '{' ∉ fillWith (f.hit? b) cs := by
  induction cs using pattern_induction f.bound with
  | nil => simp
  | text c cs htoken ih =>
    have hsuffix : cs <:+ c :: cs := List.suffix_cons c cs
    have hc : '{' ≠ c := by
      rintro rfl
      have hopen := hbound cs (List.suffix_refl _)
      rw [htoken] at hopen
      cases hopen
    rw [fillWith_text_of_token?_eq_none f b htoken]
    exact List.not_mem_cons_of_ne_of_not_mem hc
      (ih (h.of_suffix hsuffix) fun after hafter => hbound after (hafter.trans hsuffix))
  | token name rest hword hlen ih =>
    have hsuffix := suffix_token name rest
    have htoken := token?_name hword hlen rest
    have hopen := hbound (name ++ '}' :: rest) (List.suffix_refl _)
    rw [← List.cons_append, htoken, Option.any_some, ← Bindings.isSome_replacement?] at hopen
    obtain ⟨text, hb⟩ := Option.isSome_iff_exists.1 hopen
    rw [fillWith_token f b hword hlen, hb, Option.getD_some, List.mem_append, not_or]
    exact ⟨h.free _ name text (List.suffix_refl _) htoken hb,
      ih (h.of_suffix hsuffix) fun after hafter => hbound after (hafter.trans hsuffix)⟩

/-- A text without opening braces stays as it is, whatever it is filled with. -/
theorem fill_eq_self {text : String} (h : '{' ∉ text.toList) (b : Bindings) :
    f.fill text b = text := by
  have hcopied : fillWith (f.hit? b) (text.toList ++ []) = text.toList ++ fillWith (f.hit? b) [] :=
    fillWith_append (fun c hc => ne_of_mem_of_not_mem hc h) []
  rw [List.append_nil, fillWith_nil, List.append_nil] at hcopied
  rw [fill, hcopied, String.ofList_toList]

/-- The whole of a brace-safe pattern is as asked, if the replacement texts hold no opening
brace. -/
lemma refillable_of_braceSafe (hsafe : BraceSafe bound pattern)
    (hfree : ∀ p ∈ Placeholder.scan bound pattern, ∀ text, b.replacement? p.name = some text →
      '{' ∉ text.toList) : Refillable bound b pattern.toList where
  alone after hafter htoken :=
    (braceSafe_iff.1 hsafe after hafter).resolve_left (by rw [htoken]; nofun)
  free := by
    rintro back name text ⟨before, hpattern⟩ htoken hb
    obtain ⟨p, hp, -, hname⟩ := Placeholder.exists_mem_scan_of_token? hpattern.symm htoken
    exact hfree p hp text (hname ▸ hb)

/-- **Filling is idempotent.**  If each opening brace of a pattern opens a scanned placeholder or
stands alone, and no replacement text of a scanned name holds an opening brace, filling the filled
pattern once more changes nothing.  If each opening brace opens a placeholder whose name is bound,
there is no opening brace in the filled pattern, and nothing that it is filled with changes it. -/
theorem fill_fill (pattern : String) (b : Bindings) (hsafe : BraceSafe f.bound pattern)
    (hfree : ∀ p ∈ Placeholder.scan f.bound pattern, ∀ text, b.replacement? p.name = some text →
      '{' ∉ text.toList) :
    f.fill (f.fill pattern b) b = f.fill pattern b ∧
      (BracesBound f.bound b pattern →
        '{' ∉ (f.fill pattern b).toList ∧
          ∀ (g : Filler) (b' : Bindings), g.fill (f.fill pattern b) b' = f.fill pattern b) := by
  have h := refillable_of_braceSafe hsafe hfree
  refine ⟨?_, fun hbound => ?_⟩
  · rw [fill, fill, String.toList_ofList, f.fillWith_fillWith h]
  · have hnone : '{' ∉ (f.fill pattern b).toList := by
      rw [fill, String.toList_ofList]
      exact f.openBrace_notMem_fillWith h (bracesBound_iff.1 hbound)
    exact ⟨hnone, fun g b' => g.fill_eq_self hnone b'⟩

/-- A pattern with a name that is not bound and with braces that stand alone, and a pattern without
any; the replacement text has a closing brace. -/
theorem fill_fill_stray_braces :
    let f := Filler.ofStyle .simple
    let b := Bindings.empty.put .name (some "x\x7d")
    let loose := "\x7b \x7bName\x7d\x7b\x7d\x7bOther\x7d\x7b"
    let tight := "\x7bName\x7d\x7d"
    (BraceSafe f.bound loose ∧
      (∀ p ∈ Placeholder.scan f.bound loose, ∀ text, b.replacement? p.name = some text →
        '{' ∉ text.toList) ∧
      f.fill (f.fill loose b) b = f.fill loose b) ∧
    BraceSafe f.bound tight ∧
      (∀ p ∈ Placeholder.scan f.bound tight, ∀ text, b.replacement? p.name = some text →
        '{' ∉ text.toList) ∧
      BracesBound f.bound b tight ∧
      '{' ∉ (f.fill tight b).toList ∧
      ∀ (g : Filler) (b' : Bindings), g.fill (f.fill tight b) b' = f.fill tight b := by
  intro f b loose tight
  have hfree : ∀ pattern, ∀ p ∈ Placeholder.scan f.bound pattern, ∀ text,
      b.replacement? p.name = some text → '{' ∉ text.toList := by
    intro pattern p _ text htext
    rw [Bindings.replacement?, Bindings.get?_put, Bindings.get?_empty] at htext
    split at htext
    · obtain rfl := Option.some.inj htext
      decide
    · cases htext
  have hloose : BraceSafe f.bound loose := by decide +kernel
  have htight : BraceSafe f.bound tight := by decide +kernel
  have hbound : BracesBound f.bound b tight := by decide +kernel
  exact ⟨⟨hloose, hfree loose, (f.fill_fill loose b hloose (hfree loose)).1⟩, htight, hfree tight,
    hbound, (f.fill_fill tight b htight (hfree tight)).2 hbound⟩

end Filler

end Stencil
