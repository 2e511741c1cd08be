import Stencil.Bindings
import Stencil.Pattern.Placeholder

/-!
# Filling the holes of a pattern

Filling replaces every placeholder whose name is bound and leaves all other text alone.  A brace
that does not start such a placeholder is written as it stands, and reading goes on right behind
it.  Replacement texts are never read again.  Filling cannot fail.

There are two styles.  The *robust* one reads a whole name first and looks it up; the *simple*
one tries each bound key against the text behind the brace.  They differ in the greatest length
of a name that they accept by default.
-/

namespace Stencil

/-- What is recognised behind an opening brace: the name of a hole, and what fills it. -/
structure Hit where
  name : List Char
  text : List Char

namespace Hit

/-- Reads a whole name, then looks it up. -/
def byName? (bound : Nat) (b : Bindings) (rest : List Char) : Option Hit :=
  (leadingName? bound rest).bind fun name =>
    (b.replacement? (String.ofList name)).map fun text => ⟨name, text.toList⟩

/-- Whether a text starts with a key within the bound and a closing brace behind it. -/
def startsWithKey (bound : Nat) (rest : List Char) (key : Key) : Bool :=
  (key.chars ++ ['}']).isPrefixOf rest && key.chars.length ≤ bound

/-- Tries the bound keys one after the other. -/
def byKey? (bound : Nat) (b : Bindings) (rest : List Char) : Option Hit :=
  (b.table.entries.find? fun entry => startsWithKey bound rest entry.1).map fun entry =>
    ⟨entry.1.chars, (entry.2.getD "").toList⟩

end Hit

/-- Copies a text, but for an opening brace behind which something is recognised: then the text
that fills the hole is written, and the name and the closing brace are passed over. -/
def fillWith (hit? : List Char → Option Hit) : List Char → List Char
  | [] => []
  | c :: rest =>
    match if c = '{' then hit? rest else none with
    | some hit => hit.text ++ fillWith hit? (rest.drop (hit.name.length + 1))
    | none => c :: fillWith hit? rest
termination_by text => text.length
decreasing_by all_goals simp only [List.length_drop, List.length_cons]; omega

@[simp] theorem fillWith_nil (hit? : List Char → Option Hit) : fillWith hit? [] = [] := by
  rw [fillWith]

theorem fillWith_hit {hit? : List Char → Option Hit} {rest : List Char} {hit : Hit}
    (h : hit? rest = some hit) :
    fillWith hit? ('{' :: rest) =
      hit.text ++ fillWith hit? (rest.drop (hit.name.length + 1)) := by
  rw [fillWith, if_pos rfl, h]

theorem fillWith_open {hit? : List Char → Option Hit} {rest : List Char} (h : hit? rest = none) :
    fillWith hit? ('{' :: rest) = '{' :: fillWith hit? rest := by
  rw [fillWith, if_pos rfl, h]

theorem fillWith_text {hit? : List Char → Option Hit} {c : Char} (hc : c ≠ '{')
    (rest : List Char) : fillWith hit? (c :: rest) = c :: fillWith hit? rest := by
  rw [fillWith, if_neg hc]

/-- How the holes of a pattern are found. -/
inductive Style where
  /-- By trying each bound key. -/
  | simple
  /-- By reading a name and looking it up. -/
  | robust
deriving DecidableEq

namespace Style

/-- The greatest length of a name unless another one is set. -/
def defaultBound : Style → Nat
  | simple => 30
  | robust => Key.maxLength

/-- The name of a style. -/
def display : Style → String
  | simple => "Simple"
  | robust => "Robust"

end Style

/-- Fills patterns in a style, with a greatest length of names. -/
structure Filler where
  style : Style := .robust
  bound : Nat := style.defaultBound
deriving DecidableEq

namespace Filler

/-- The filler of a style with the bound of that style. -/
def ofStyle (style : Style) : Filler := { style }

/-- What a filler recognises behind an opening brace. -/
def hit? (f : Filler) (b : Bindings) : List Char → Option Hit :=
  match f.style with
  | .simple => Hit.byKey? f.bound b
  | .robust => Hit.byName? f.bound b

/-- The pattern with its holes filled. -/
def fill (f : Filler) (pattern : String) (b : Bindings) : String :=
  String.ofList (fillWith (f.hit? b) pattern.toList)

/-- The placeholders of a pattern that the filler would look up. -/
def placeholders (f : Filler) (pattern : String) : List Placeholder :=
  Placeholder.scan f.bound pattern

end Filler

end Stencil
