import Stencil.Proofs.Pattern.Pieces

/-!
# Patterns as templates

A template is a text with slots.  All slots are filled at once: what is written into one of them is
not looked at again.  A slot can also be replaced by a template, and to fill the result is to fill
each slot with what its own template is filled to.  So a text that is made in several stages is the
text of one template.

A pattern is read as a template that has a slot for each placeholder.  The bound on the length of
names does not matter as long as no placeholder exceeds it.

The main results are

* `Template.fill_expand`: filling in stages is filling at once;
* `Template.fill_braces_ofPattern`: the template of a pattern, written as a text, is the pattern;
* `Template.slots_ofPattern`: the slots of a pattern are the placeholders that its scan lists;
* `Template.ofPattern_eq_of_le`: patterns with short placeholders are read alike under all bounds;
* `Filler.fill_eq_template_fill`: a filled pattern is the filled template of the pattern.
-/

namespace Stencil

/-- Characters that stand for themselves, and slots for texts. -/
abbrev Template (σ : Type) := List (Char ⊕ σ)

namespace Template

variable {σ τ : Type}

/-- The slots of a template from left to right. -/
def slots (t : Template σ) : List σ := t.filterMap Sum.getRight?

/-- The text of a template all of whose slots are filled at once. -/
def fill (value : σ → String) (t : Template σ) : String :=
  String.ofList (t.flatMap (Sum.elim (fun c => [c]) fun s => (value s).toList))

/-- The template with a template in the place of each slot. -/
def expand (f : σ → Template τ) (t : Template σ) : Template τ :=
  t.flatMap (Sum.elim (fun c => [.inl c]) f)

/-- The template with other slots. -/
def rename (f : σ → τ) (t : Template σ) : Template τ := t.map (Sum.map id f)

variable {value other : σ → String} {t : Template σ}

lemma toList_fill (value : σ → String) (t : Template σ) :
    (t.fill value).toList = t.flatMap (Sum.elim (fun c => [c]) fun s => (value s).toList) :=
  String.toList_ofList

/-- What is filled depends on the texts for the slots that there are. -/
lemma fill_congr (h : ∀ s ∈ t.slots, value s = other s) : t.fill value = t.fill other := by
  rw [fill, fill]
  congr 1
  refine List.flatMap_congr fun piece hpiece => ?_
  rcases piece with c | s
  · rfl
  · have hs : s ∈ t.slots := List.mem_filterMap.2 ⟨_, hpiece, rfl⟩
    show (value s).toList = (other s).toList
    rw [h s hs]

/-- Filling in stages is filling at once. -/
theorem fill_expand (value : τ → String) (f : σ → Template τ) (t : Template σ) :
    (t.expand f).fill value = t.fill fun s => (f s).fill value := by
  rw [← String.toList_inj, toList_fill, toList_fill, expand, List.flatMap_assoc]
  refine List.flatMap_congr fun piece _ => ?_
  rcases piece with c | s
  · simp
  · exact (toList_fill value (f s)).symm

lemma fill_rename (value : τ → String) (f : σ → τ) (t : Template σ) :
    (t.rename f).fill value = t.fill (value ∘ f) := by
  rw [fill, fill, rename, List.flatMap_map]
  congr 1
  refine List.flatMap_congr fun piece _ => ?_
  rcases piece with c | s <;> rfl

lemma fill_singleton (value : σ → String) (s : σ) : fill value [.inr s] = value s := by
  simp [fill]

lemma fill_append (value : σ → String) (s t : Template σ) :
    fill value (s ++ t) = fill value s ++ fill value t := by
  rw [fill, List.flatMap_append, String.ofList_append, ← fill, ← fill]

/-- Templates one behind the other are filled one after the other. -/
lemma fill_flatten (value : σ → String) (ts : List (Template σ)) :
    fill value ts.flatten = String.join (ts.map (fill value)) := by
  induction ts with
  | nil => rfl
  | cons t ts ih => rw [List.flatten_cons, fill_append, ih, List.map_cons, String.join_cons]

end Template

/-! ## The template of a pattern -/

/-- A piece of a pattern as a piece of a template. -/
def Piece.part : Piece → Char ⊕ String
  | char c => .inl c
  | hole name => .inr (String.ofList name)

namespace Template

/-- A pattern with a slot for each placeholder whose name is within a bound. -/
def ofPattern (bound : Nat) (pattern : String) : Template String :=
  (Piece.ofPattern bound pattern).map Piece.part

/-- With each hole written between braces, the pieces of a text are the text. -/
lemma flatMap_written_ofChars (bound count : Nat) (cs : List Char) :
    ((Piece.ofChars bound count cs).map Piece.part).flatMap
        (Sum.elim (fun c => [c]) fun name => ("\x7b" ++ name ++ "\x7d").toList) =
      cs.drop count := by
  induction cs generalizing count with
  | nil => cases count <;> rfl
  | cons c cs ih =>
    cases count with
    | succ count => exact ih count
    | zero =>
      rw [Piece.ofChars]
      cases htoken : token? bound (c :: cs) with
      | none => exact congrArg (c :: ·) (ih 0)
      | some name =>
        -- the characters that are counted off are those of the hole, which is written back
        obtain ⟨-, -, rest, hsplit⟩ := token?_eq_some_iff.1 htoken
        rw [List.cons_append, List.cons.injEq] at hsplit
        obtain ⟨rfl, rfl⟩ := hsplit
        have hbehind : (name ++ '}' :: rest).drop (name.length + 1) = rest := by simp
        rw [List.map_cons, List.flatMap_cons, ih, hbehind]
        simp [Piece.part]

/-- With the name of each slot written between braces, the template of a pattern is the pattern. -/
theorem fill_braces_ofPattern (bound : Nat) (pattern : String) :
    ((ofPattern bound pattern).fill fun name => "\x7b" ++ name ++ "\x7d") = pattern := by
  rw [← String.toList_inj, toList_fill]
  exact flatMap_written_ofChars bound 0 pattern.toList

/-- The slots of a pattern are the placeholders that are left to scan, in their order. -/
lemma slots_ofChars (bound : Nat) (r : Reader) :
    slots ((Piece.ofChars bound 0 r.rest).map Piece.part) =
      (Placeholder.scanFrom bound r).map Placeholder.name := by
  fun_induction Placeholder.scanFrom bound r with
  | case1 r hrest =>
    rw [hrest]
    rfl
  | case2 r hrest name htoken ih =>
    obtain ⟨hword, hlen, rest, hr⟩ := token?_eq_some_iff.1 htoken
    rw [(Reader.skip_token hr).1] at ih
    rw [hr, Piece.ofChars_token hword hlen, List.map_cons, List.map_cons, ← ih]
    rfl
  | case3 r hrest htoken ih =>
    obtain ⟨c, cs, hr⟩ := List.exists_cons_of_ne_nil hrest
    have hskip : (r.skip 1).rest = cs := by simp [Reader.skip, hr]
    rw [hr] at htoken
    rw [hr, Piece.ofChars_text htoken, ← ih, hskip]
    rfl

/-- The slots of a pattern are called like the placeholders that its scan lists. -/
theorem slots_ofPattern (bound : Nat) (pattern : String) :
    (ofPattern bound pattern).slots = (Placeholder.scan bound pattern).map Placeholder.name :=
  slots_ofChars bound (Reader.ofString pattern)

end Template

/-- A filled pattern is the filled template of the pattern, where the slots of names that are not
bound keep their braces. -/
theorem Filler.fill_eq_template_fill (f : Filler) (pattern : String) (b : Bindings) :
    f.fill pattern b = (Template.ofPattern f.bound pattern).fill fun name =>
      (b.replacement? name).getD ("\x7b" ++ name ++ "\x7d") := by
  rw [← String.toList_inj, Filler.toList_fill, Template.toList_fill, Template.ofPattern,
    List.flatMap_map]
  refine List.flatMap_congr fun piece _ => ?_
  cases piece <;> rfl

/-! ## Bounds -/

lemma token?_eq_of_le {m n : Nat} (hmn : m ≤ n) {text : List Char}
    (h : ∀ name, token? n text = some name → name.length ≤ m) : token? m text = token? n text := by
  refine Option.ext fun name => ?_
  constructor
  · intro hm
    obtain ⟨hword, hlen, hrest⟩ := token?_eq_some_iff.1 hm
    exact token?_eq_some_iff.2 ⟨hword, hlen.trans hmn, hrest⟩
  · intro hn
    obtain ⟨hword, -, hrest⟩ := token?_eq_some_iff.1 hn
    exact token?_eq_some_iff.2 ⟨hword, h name hn, hrest⟩

namespace Piece

/-- The names of the holes among some pieces. -/
def names : List Piece → List (List Char)
  | [] => []
  | char _ :: rest => names rest
  | hole name :: rest => name :: names rest

/-- A bound that no hole exceeds is as good as a greater one. -/
lemma ofChars_eq_of_le {m n : Nat} (hmn : m ≤ n) {count : Nat} {cs : List Char}
    (h : ∀ name ∈ names (ofChars n count cs), name.length ≤ m) :
    ofChars m count cs = ofChars n count cs := by
  induction cs generalizing count with
  | nil => cases count <;> rfl
  | cons c cs ih =>
    cases count with
    | succ count => exact ih h
    | zero =>
      have htoken : token? m (c :: cs) = token? n (c :: cs) := by
        refine token?_eq_of_le hmn fun name hname => h name ?_
        rw [ofChars, hname]
        exact List.mem_cons_self
      rw [ofChars, ofChars, htoken]
      rw [ofChars] at h
      cases hn : token? n (c :: cs) with
      | none =>
        rw [hn] at h
        exact congrArg (char c :: ·) (ih h)
      | some name =>
        rw [hn] at h
        exact congrArg (hole name :: ·) (ih fun _ hmem => h _ (List.mem_cons_of_mem _ hmem))

end Piece

namespace Template

lemma slots_map_part (pieces : List Piece) :
    slots (pieces.map Piece.part) = (Piece.names pieces).map String.ofList := by
  induction pieces with
  | nil => rfl
  | cons piece pieces ih =>
    cases piece with
    | char c => exact ih
    | hole name => exact congrArg (String.ofList name :: ·) ih

/-- A pattern is read alike under two bounds if no name that is read under the greater one exceeds
the smaller one. -/
theorem ofPattern_eq_of_le {m n : Nat} (hmn : m ≤ n) {pattern : String}
    (h : ∀ name ∈ Piece.names (Piece.ofPattern n pattern), name.length ≤ m) :
    ofPattern m pattern = ofPattern n pattern := by
  rw [ofPattern, ofPattern, Piece.ofPattern, Piece.ofChars_eq_of_le hmn h, Piece.ofPattern]

end Template

end Stencil
