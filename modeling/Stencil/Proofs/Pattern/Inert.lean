import Stencil.Generator.Keys
import Stencil.Pattern.Coverage
import Stencil.Proofs.Pattern.Template

/-!
# Keys that no placeholder asks for

Coverage lists the placeholders that nothing is bound to and the keys that no placeholder asks for.
The latter are inert: to fill a pattern is to fill the slots of its template, so that bindings count
by what they answer for the names of the placeholders.  This is so in the simple style too, which
compares the text behind each brace with all keys, those included that start like the name of a
placeholder or that a placeholder starts with.

The main results are

* `Filler.fill_eq_fill_of_scan`: filling asks for the names of the placeholders and for no others;
* `Coverage.between_exact`: what coverage lists, and that the keys without a placeholder are inert.
-/

namespace Stencil

/-- Bindings that answer alike for the placeholders of a pattern fill it alike, in whatever
styles. -/
theorem Filler.fill_eq_fill_of_scan {bound : Nat} {pattern : String} {a b : Bindings}
    (h : ∀ p ∈ Placeholder.scan bound pattern, a.get? p.name = b.get? p.name)
    (style style' : Style) : fill ⟨style, bound⟩ pattern a = fill ⟨style', bound⟩ pattern b := by
  rw [fill_eq_template_fill, fill_eq_template_fill]
  refine Template.fill_congr fun name hname => ?_
  rw [Template.slots_ofPattern, List.mem_map] at hname
  obtain ⟨p, hp, rfl⟩ := hname
  rw [Bindings.replacement?, Bindings.replacement?, h p hp]

/-- Writing keys leaves the answers for all other texts as they are. -/
lemma Bindings.get?_putAll_of_ne {text : String} {pairs : List (Key × Option String)}
    (h : ∀ pair ∈ pairs, text ≠ pair.1.text) (b : Bindings) :
    (b.putAll pairs).get? text = b.get? text := by
  induction pairs generalizing b with
  | nil => rfl
  | cons pair pairs ih =>
    have hput : b.putAll (pair :: pairs) = (b.put pair.1 pair.2).putAll pairs := rfl
    rw [hput, ih (fun q hq => h q (List.mem_cons_of_mem _ hq)), get?_put,
      if_neg (h pair List.mem_cons_self)]

namespace Coverage

variable {holes : List Placeholder} {b : Bindings}

lemma missing_between :
    (between holes b).missing = holes.filter fun p => b.get? p.name = none := by
  refine List.filter_congr fun p _ => ?_
  rw [Bindings.contains]
  cases b.get? p.name <;> rfl

lemma mem_unused_iff {key : String} :
    key ∈ (between holes b).unused ↔ b.contains key = true ∧ ∀ p ∈ holes, p.name ≠ key := by
  simp [between, Bindings.mem_sortedKeys_iff]

lemma pairwise_unused : (between holes b).unused.Pairwise (· < ·) :=
  b.pairwise_sortedKeys.sublist List.filter_sublist

/-- **Coverage is exact, and unused keys are inert.**  The missing placeholders are those that
nothing is bound to, in their order and as often as they occur; the unused keys are those that no
placeholder is called like, each once and in increasing order.  Bindings that answer alike for the
placeholders fill the pattern alike in both styles.  So they do without the unused keys, and with
other values for these and with more keys of the kind. -/
theorem between_exact (bound : Nat) (pattern : String) (b : Bindings) :
    let holes := Placeholder.scan bound pattern
    let c := between holes b
    (c.missing = holes.filter fun p => b.get? p.name = none) ∧
      (c.unused.Pairwise (· < ·) ∧
        ∀ key, key ∈ c.unused ↔ b.contains key = true ∧ ∀ p ∈ holes, p.name ≠ key) ∧
      ∀ style style' : Style,
        let text := Filler.fill ⟨style, bound⟩ pattern b
        (∀ other : Bindings, (∀ p ∈ holes, other.get? p.name = b.get? p.name) →
          Filler.fill ⟨style', bound⟩ pattern other = text) ∧
        Filler.fill ⟨style', bound⟩ pattern (b.restrict fun key => key ∉ c.unused) = text ∧
        ∀ pairs : List (Key × Option String),
          (∀ pair ∈ pairs, ∀ p ∈ holes, p.name ≠ pair.1.text) →
            Filler.fill ⟨style', bound⟩ pattern (b.putAll pairs) = text := by
  intro holes c
  refine ⟨missing_between, ⟨pairwise_unused, fun key => mem_unused_iff⟩, fun style style' => ?_⟩
  refine ⟨fun other h => Filler.fill_eq_fill_of_scan h _ _,
    Filler.fill_eq_fill_of_scan (fun p hp => ?_) _ _,
    fun pairs hpairs => Filler.fill_eq_fill_of_scan (fun p hp => ?_) _ _⟩
  · have hused : p.name ∉ c.unused := fun hunused => (mem_unused_iff.1 hunused).2 p hp rfl
    rw [Bindings.get?_restrict, if_pos (by simpa using hused)]
  · exact Bindings.get?_putAll_of_ne (fun pair hpair => hpairs pair hpair p hp) b

/-- A pattern with a hole that nothing is bound to, a hole that a key is the front of, and a key
that a hole is the front of and that stands behind a brace without being closed.  The two keys are
unused: written anew or left out, they change nothing in either style. -/
theorem between_exact_index :
    let pattern := "\x7bIndex\x7d \x7bTypes\x7d \x7bIndexArms"
    let b := Bindings.empty.putAll
      [(Key.type, some "u8"), (.indexArms, some "\x7bIndex\x7d"), (.index, some "0")]
    let c := between (Placeholder.scan 30 pattern) b
    c.missing = [⟨"Types", 8, ⟨⟨1, 9⟩, 7⟩⟩] ∧ c.unused.Pairwise (· < ·) ∧
      "IndexArms" ∈ c.unused ∧ "Type" ∈ c.unused ∧ "Index" ∉ c.unused ∧
      Filler.fill ⟨.simple, 30⟩ pattern b = "0 \x7bTypes\x7d \x7bIndexArms" ∧
      Filler.fill ⟨.robust, 30⟩ pattern (b.restrict fun key => key ∉ c.unused) =
        "0 \x7bTypes\x7d \x7bIndexArms" ∧
      (∀ pair ∈ [(Key.indexArms, none), (.err, some "\x7d")],
        ∀ p ∈ Placeholder.scan 30 pattern, p.name ≠ pair.1.text) ∧
      Filler.fill ⟨.simple, 30⟩ pattern (b.putAll [(.indexArms, none), (.err, some "\x7d")]) =
        "0 \x7bTypes\x7d \x7bIndexArms" := by
  intro pattern b c
  have htext : Filler.fill ⟨.simple, 30⟩ pattern b = "0 \x7bTypes\x7d \x7bIndexArms" := by
    decide +kernel
  have hpairs : ∀ pair ∈ [(Key.indexArms, none), (.err, some "\x7d")],
      ∀ p ∈ Placeholder.scan 30 pattern, p.name ≠ pair.1.text := by decide +kernel
  obtain ⟨hmissing, ⟨hsorted, hunused⟩, hfill⟩ := between_exact 30 pattern b
  refine ⟨hmissing.trans (by decide +kernel), hsorted, (hunused _).2 (by decide +kernel),
    (hunused _).2 (by decide +kernel), fun h => ?_, htext,
    (hfill .simple .robust).2.1.trans htext, hpairs,
    ((hfill .simple .simple).2.2 _ hpairs).trans htext⟩
  exact absurd ((hunused _).1 h) (by decide +kernel)

end Coverage

end Stencil
