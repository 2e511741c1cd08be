import Stencil.Generator.Keys
import Stencil.Pattern.Filler
import Stencil.Proofs.Bindings.Contents
import Stencil.Proofs.Pattern.Name

/-!
# The two styles of filling

The simple style compares the text behind a brace with each bound key; the robust style reads a
name and looks it up.  Both recognise the same thing, which `Hit.IsAt` says without either loop:
a bound key within the bound, with a closing brace behind it.  As no key holds a brace, at most
one key stands at the start of a text, and so the order in which the keys are tried is without
effect.

The main results are

* `Filler.hit?_eq_some_iff`: what a filler recognises, in both styles;
* `Filler.fill_congr`: filling depends on the answers of the bindings alone;
* `Filler.fill_simple_eq_fill_robust`: the styles agree where their bounds admit the same keys.
-/

namespace Stencil

namespace Hit

/-- A text starts with a bound key within the bound and a closing brace, and the hit is this key
and the text that it is bound to. -/
def IsAt (bound : Nat) (b : Bindings) (rest : List Char) (hit : Hit) : Prop :=
  ∃ (key : Key) (value : Option String) (tail : List Char),
    b.table.get? key = some value ∧ key.chars.length ≤ bound ∧ rest = key.chars ++ '}' :: tail ∧
      hit = ⟨key.chars, (value.getD "").toList⟩

/-- The bindings count by their answers, and the bound by the keys that it admits. -/
lemma IsAt.mono {m n : Nat} {a b : Bindings} {rest : List Char} {hit : Hit}
    (h : IsAt m a rest hit) (hget : ∀ text, a.get? text = b.get? text)
    (hbound : ∀ pair ∈ a.pairs, pair.1.length ≤ m → pair.1.length ≤ n) : IsAt n b rest hit := by
  obtain ⟨key, value, tail, hkey, hlen, hrest, hhit⟩ := h
  have hmem : (key.text, value) ∈ a.pairs :=
    List.mem_map.2 ⟨(key, value), (Table.mem_entries_iff _ _ _).2 hkey, rfl⟩
  rw [Bindings.forall_get?_eq_iff.1 hget] at hkey
  exact ⟨key, value, tail, hkey, hbound _ hmem hlen, hrest, hhit⟩

/-! ## By name -/

lemma byName?_eq_some_iff {bound : Nat} {b : Bindings} {rest : List Char} {hit : Hit} :
    byName? bound b rest = some hit ↔ IsAt bound b rest hit := by
  simp only [byName?, Option.bind_eq_some_iff, Option.map_eq_some_iff, leadingName?_eq_some_iff,
    Bindings.replacement?, Bindings.get?_eq_some_iff]
  constructor
  · rintro ⟨name, ⟨-, hlen, tail, hrest⟩, text, ⟨value, ⟨key, hname, hkey⟩, rfl⟩, rfl⟩
    obtain rfl : name = key.chars := by rw [Key.chars, ← hname, String.toList_ofList]
    exact ⟨key, value, tail, hkey, hlen, hrest, rfl⟩
  · rintro ⟨key, value, tail, hkey, hlen, hrest, rfl⟩
    exact ⟨key.chars, ⟨key.isWord_chars, hlen, tail, hrest⟩, value.getD "",
      ⟨value, ⟨key, key.ofList_chars, hkey⟩, rfl⟩, rfl⟩

/-! ## By key -/

lemma startsWithKey_iff {bound : Nat} {rest : List Char} {key : Key} :
    startsWithKey bound rest key = true ↔
      key.chars.length ≤ bound ∧ ∃ tail, rest = key.chars ++ '}' :: tail := by
  simp only [startsWithKey, Bool.and_eq_true, List.isPrefixOf_iff_prefix, decide_eq_true_eq,
    List.prefix_iff_eq_append, and_comm]
  constructor
  · rintro ⟨hlen, hrest⟩
    exact ⟨hlen, _, by simpa using hrest.symm⟩
  · rintro ⟨hlen, tail, rfl⟩
    exact ⟨hlen, by simp⟩

/-- At most one key stands at the start of a text: it is the name that the text starts with. -/
lemma startsWithKey_unique {bound : Nat} {rest : List Char} {key key' : Key}
    (h : startsWithKey bound rest key = true) (h' : startsWithKey bound rest key' = true) :
    key = key' := by
  have hname : ∀ {k : Key}, startsWithKey bound rest k = true →
      leadingName? bound rest = some k.chars := fun {k} hk =>
    leadingName?_eq_some_iff.2 ⟨k.isWord_chars, startsWithKey_iff.1 hk⟩
  have hchars : key.chars = key'.chars := Option.some.inj ((hname h).symm.trans (hname h'))
  have htext : key.text = key'.text := by rw [← key.ofList_chars, hchars, key'.ofList_chars]
  exact Option.some.inj (by rw [← Key.ofString?_text key, htext, Key.ofString?_text])

lemma byKey?_eq_some_iff {bound : Nat} {b : Bindings} {rest : List Char} {hit : Hit} :
    byKey? bound b rest = some hit ↔ IsAt bound b rest hit := by
  simp only [byKey?, Option.map_eq_some_iff]
  constructor
  · rintro ⟨⟨key, value⟩, hfind, rfl⟩
    have hmem := List.mem_of_find?_eq_some hfind
    have hstart := List.find?_some hfind
    obtain ⟨hlen, tail, hrest⟩ := startsWithKey_iff.1 hstart
    exact ⟨key, value, tail, (Table.mem_entries_iff _ _ _).1 hmem, hlen, hrest, rfl⟩
  · rintro ⟨key, value, tail, hkey, hlen, hrest, rfl⟩
    have hstart : startsWithKey bound rest key = true := startsWithKey_iff.2 ⟨hlen, tail, hrest⟩
    have hmem : (key, value) ∈ b.table.entries := (Table.mem_entries_iff _ _ _).2 hkey
    -- the entry found first may stand before this one, but its key is the same
    obtain ⟨⟨key', value'⟩, hfind⟩ : ∃ e, b.table.entries.find?
        (fun entry => startsWithKey bound rest entry.1) = some e := by
      rw [← Option.isSome_iff_exists, List.find?_isSome]
      exact ⟨_, hmem, hstart⟩
    have hstart' := List.find?_some hfind
    obtain rfl : key' = key := startsWithKey_unique hstart' hstart
    have hkey' := (Table.mem_entries_iff _ _ _).1 (List.mem_of_find?_eq_some hfind)
    obtain rfl : value' = value := Option.some.inj (hkey'.symm.trans hkey)
    exact ⟨(key', value'), hfind, rfl⟩

end Hit

namespace Filler

/-- What a filler recognises behind an opening brace does not depend on its style. -/
theorem hit?_eq_some_iff {f : Filler} {b : Bindings} {rest : List Char} {hit : Hit} :
    f.hit? b rest = some hit ↔ Hit.IsAt f.bound b rest hit := by
  rw [hit?]
  cases f.style with
  | simple => exact Hit.byKey?_eq_some_iff
  | robust => exact Hit.byName?_eq_some_iff

/-- Recognition in either style is reading a name and looking it up. -/
lemma hit?_eq_byName? (f : Filler) (b : Bindings) (rest : List Char) :
    f.hit? b rest = Hit.byName? f.bound b rest := by
  refine Option.ext fun hit => ?_
  rw [hit?_eq_some_iff, Hit.byName?_eq_some_iff]

/-- Two fillers write the same if their bounds admit the same of the bound keys and the bindings
give the same answers. -/
lemma fill_eq_fill {f g : Filler} {a b : Bindings} (hget : ∀ text, a.get? text = b.get? text)
    (hbound : ∀ pair ∈ a.pairs, (pair.1.length ≤ f.bound ↔ pair.1.length ≤ g.bound))
    (pattern : String) : f.fill pattern a = g.fill pattern b := by
  have hbound' : ∀ pair ∈ b.pairs, (pair.1.length ≤ f.bound ↔ pair.1.length ≤ g.bound) :=
    fun pair hp => hbound pair ((Bindings.perm_pairs_iff.2 hget).mem_iff.2 hp)
  have hhit : f.hit? a = g.hit? b := by
    funext rest
    refine Option.ext fun hit => ?_
    rw [hit?_eq_some_iff, hit?_eq_some_iff]
    constructor
    · exact fun h => h.mono hget fun pair hp => (hbound pair hp).1
    · exact fun h => h.mono (fun text => (hget text).symm) fun pair hp => (hbound' pair hp).2
  rw [fill, fill, hhit]

/-- Filling depends on the answers of the bindings alone. -/
theorem fill_congr (f : Filler) {a b : Bindings} (hget : ∀ text, a.get? text = b.get? text)
    (pattern : String) : f.fill pattern a = f.fill pattern b :=
  fill_eq_fill hget (fun _ _ => Iff.rfl) pattern

/-- The simple and the robust style write the same text if their bounds admit the same keys,
whatever the order in which the bindings are enumerated. -/
theorem fill_simple_eq_fill_robust {a b : Bindings} (hab : a.pairs.Perm b.pairs) {m n : Nat}
    (hbound : ∀ pair ∈ a.pairs, (pair.1.length ≤ m ↔ pair.1.length ≤ n)) (pattern : String) :
    fill ⟨.simple, m⟩ pattern a = fill ⟨.robust, n⟩ pattern b :=
  fill_eq_fill (Bindings.perm_pairs_iff.1 hab) hbound pattern

/-- Two keys of which one starts with the other, in either order, at the default bounds of the
styles. -/
theorem fill_simple_eq_fill_robust_index :
    let a := Bindings.empty.putAll [(Key.index, some "{IndexArms}"), (.indexArms, none)]
    let b := Bindings.empty.putAll [(Key.indexArms, none), (.index, some "{IndexArms}")]
    a.pairs.Perm b.pairs ∧ (∀ pair ∈ a.pairs, (pair.1.length ≤ 30 ↔ pair.1.length ≤ 50)) ∧
      fill (ofStyle .simple) "\x7b{Index}{IndexArms}\x7bInd" a =
        fill (ofStyle .robust) "\x7b{Index}{IndexArms}\x7bInd" b := by
  intro a b
  have hperm : a.pairs.Perm b.pairs := by decide
  have hbound : ∀ pair ∈ a.pairs, (pair.1.length ≤ 30 ↔ pair.1.length ≤ 50) := by decide
  exact ⟨hperm, hbound, fill_simple_eq_fill_robust hperm hbound "\x7b{Index}{IndexArms}\x7bInd"⟩

end Filler

end Stencil
