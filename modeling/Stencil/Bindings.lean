import Stencil.Digest.Basic
import Stencil.Key
import Stencil.Table

/-!
# Bindings

Bindings give the texts that the holes of a pattern are filled with.  A value may be explicitly
absent: it fills a hole with the empty text, but it is a value of its own where bindings are
compared or digested.

Bindings are equal (`==`) if they give the same answer for every key; neither equality nor the
digest depends on the order in which the keys came in.
-/

namespace Stencil

/-- Why a key cannot be bound. -/
inductive BindingError where
  /-- The text is not a key. -/
  | invalidKey (key : String)
  /-- The key is bound already. -/
  | duplicateKey (key : String)
deriving DecidableEq

namespace BindingError

/-- The text that was to be bound. -/
def key : BindingError → String
  | invalidKey key => key
  | duplicateKey key => key

/-- The wording of the error. -/
def message : BindingError → String
  | invalidKey key => s!"'{key}' is not a valid placeholder name"
  | duplicateKey key => s!"placeholder '{key}' is defined more than once"

end BindingError

/-- A text, or an explicit absence, for each of some keys. -/
structure Bindings where
  table : Table Key (Option String)

namespace Bindings

/-- No bindings. -/
def empty : Bindings := ⟨Table.empty⟩

/-- The number of keys. -/
def size (b : Bindings) : Nat := b.table.size

/-- Whether no key is bound. -/
def isEmpty (b : Bindings) : Bool := b.table.isEmpty

/-! ## Looking up -/

/-- What a text is bound to: nothing at all, an explicit absence, or a text. -/
def get? (b : Bindings) (key : String) : Option (Option String) :=
  (Key.ofString? key).bind b.table.get?

/-- What a hole is filled with, if its name is bound. -/
def replacement? (b : Bindings) (key : String) : Option String := (b.get? key).map (·.getD "")

/-- Whether a text is bound. -/
def contains (b : Bindings) (key : String) : Bool := (b.get? key).isSome

/-! ## Writing -/

/-- Binds a key; what it was bound to before is lost. -/
def put (b : Bindings) (key : Key) (value : Option String) : Bindings := ⟨b.table.put key value⟩

/-- Binds keys one after the other. -/
def putAll (b : Bindings) (pairs : List (Key × Option String)) : Bindings := ⟨b.table.putAll pairs⟩

/-- Binds a text if it is a key; what it was bound to before is lost. -/
def insert? (b : Bindings) (key : String) (value : Option String) : Except BindingError Bindings :=
  match Key.ofString? key with
  | some k => .ok (b.put k value)
  | none => .error (.invalidKey key)

/-- Binds a text if it is a key that is not bound yet. -/
def define? (b : Bindings) (key : String) (value : Option String) : Except BindingError Bindings :=
  match Key.ofString? key with
  | some k => if b.table.contains k then .error (.duplicateKey key) else .ok (b.put k value)
  | none => .error (.invalidKey key)

/-- The bindings that pairs define, or the error of the first pair that cannot be defined. -/
def ofPairs? (pairs : List (String × Option String)) : Except BindingError Bindings :=
  pairs.foldlM (fun b pair => b.define? pair.1 pair.2) empty

@[simp] theorem get?_empty (key : String) : empty.get? key = none := by
  unfold get?
  cases Key.ofString? key <;> rfl

/-- A key just bound has its new value, and every other text is bound to what it was before. -/
theorem get?_put (b : Bindings) (key : Key) (value : Option String) (k : String) :
    (b.put key value).get? k = if k = key.text then some value else b.get? k := by
  by_cases h : k = key.text
  · subst h
    simp [get?, put, Table.get?_put]
  · rw [if_neg h, get?, get?, put]
    cases hk : Key.ofString? k with
    | none => rfl
    | some key' =>
      have hne : key' ≠ key := fun e => h (e ▸ Key.ofString?_eq_some_iff.1 hk)
      simp [Table.get?_put, hne]

/-! ## Enumerating -/

/-- The bound texts and their values, in no particular order. -/
def pairs (b : Bindings) : List (String × Option String) :=
  b.table.entries.map fun entry => (entry.1.text, entry.2)

/-- The bound texts and their values, in increasing order of the texts. -/
def sortedPairs (b : Bindings) : List (String × Option String) :=
  b.pairs.mergeSort fun p q => p.1 ≤ q.1

/-- The bound texts in increasing order. -/
def sortedKeys (b : Bindings) : List String := b.sortedPairs.map Prod.fst

/-- The number of bytes of all replacement texts together. -/
def replacementBytes (b : Bindings) : Nat :=
  b.pairs.foldr (fun pair bytes => (pair.2.getD "").utf8ByteSize + bytes) 0

/-! ## Comparing -/

/-- The digest of all bindings, whatever their order. -/
def digest [TextHash] (b : Bindings) : Digest :=
  Digest.combine (b.pairs.map fun pair => Digest.ofEntry pair.1 pair.2)

/-- Whether every entry of the first bindings is found in the second ones. -/
def subsumed (a b : Bindings) : Bool :=
  a.table.entries.all fun entry => b.table.get? entry.1 == some entry.2

/-- Bindings of the same size are equal if each entry of the first is found in the second. -/
instance : BEq Bindings := ⟨fun a b => a.size == b.size && a.subsumed b⟩

end Bindings

end Stencil
