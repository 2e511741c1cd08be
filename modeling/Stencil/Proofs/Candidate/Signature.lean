import Stencil.Proofs.Candidate.FileStem
import Stencil.Proofs.Generator.Extraction
import Stencil.Proofs.Text.Boundary

/-!
# What an identity tells

An identity is written without any marks of where its parts begin, and the modules in it may be
named with any characters.  It can be read all the same, from its end: what stands there are the
characters of a name or the digits of a number, and the character in front of them says which of
the two it is.  A backquote stands in front of a number, a colon in front of a name; a name holds
neither of them.

So an identity tells the name, the number of type parameters, and the modules as they are joined.
It does not tell more: modules with colons in their names may be joined to the same path as others.

The main results are

* `Signature.ofIdentity_identity`: what is read from an identity is what it was written for;
* `Candidate.identity_eq_iff`: which candidates have the same identity.
-/

namespace Stencil

/-- What the identity of a candidate tells. -/
structure Signature where
  /-- The modules as they are joined, if there are any. -/
  path : Option String
  name : String
  /-- The number of type parameters. -/
  arity : Nat
deriving DecidableEq

namespace Signature

/-! ## Writing -/

/-- The name behind the path. -/
def fullName (s : Signature) : String :=
  match s.path with
  | none => s.name
  | some path => path ++ "::" ++ s.name

/-- The name behind the path, and the number of type parameters if there are any. -/
def identity (s : Signature) : String :=
  if s.arity = 0 then s.fullName else s.fullName ++ "`" ++ toString s.arity

/-! ## Reading -/

/-- The characters at the end of a text that may stand in a name. -/
def ending (text : List Char) : List Char := text.rtakeWhile Generator.isNameChar

/-- What stands in front of the characters at the end of a text that may stand in a name. -/
def front (text : List Char) : List Char := text.rdropWhile Generator.isNameChar

/-- Reads a name and what is in front of it: nothing, or a path and two colons. -/
def ofFullName (text : List Char) (arity : Nat) : Signature where
  path := if front text = [] then none else some (String.ofList (front text).dropLast.dropLast)
  name := String.ofList (ending text)
  arity := arity

/-- Reads an identity: behind a backquote stands the number of type parameters. -/
def ofIdentity (identity : String) : Signature :=
  let text := identity.toList
  if (front text).getLast? = some '\x60' then
    ofFullName (front text).dropLast ((String.ofList (ending text)).toNat?.getD 0)
  else ofFullName text 0

/-! ## Where a text is cut -/

section Cut

variable {cs text : List Char}

/-- Characters that may stand in a name are cut off down to one that may not. -/
lemma front_append (hcs : ∀ c ∈ cs, Generator.isNameChar c = true)
    (htext : ∀ c ∈ text.getLast?, Generator.isNameChar c = false) : front (text ++ cs) = text := by
  induction cs using List.reverseRecOn with
  | nil =>
    rw [front, List.append_nil, List.rdropWhile_eq_self_iff]
    intro hne
    simp [htext _ (List.getLast?_eq_some_getLast hne)]
  | append_singleton cs c ih =>
    rw [front, ← List.append_assoc, List.rdropWhile_concat_pos _ _ _ (hcs c (by simp))]
    exact ih fun d hd => hcs d (List.mem_append_left _ hd)

lemma ending_append (hcs : ∀ c ∈ cs, Generator.isNameChar c = true)
    (htext : ∀ c ∈ text.getLast?, Generator.isNameChar c = false) : ending (text ++ cs) = cs := by
  have hsplit := List.rdropWhile_append_rtakeWhile (p := Generator.isNameChar) (l := text ++ cs)
  rw [← front, front_append hcs htext] at hsplit
  exact List.append_cancel_left hsplit

end Cut

/-! ## What is read is what was written -/

lemma isNameChar_of_isDigit {c : Char} (h : c.isDigit = true) :
    Generator.isNameChar c = true := by
  rw [Char.isDigit, Bool.and_eq_true, decide_eq_true_eq, decide_eq_true_eq] at h
  have hrange : Text.inRanges c.toNat Text.numericRanges = true := by
    rw [Text.inRanges_iff Text.sortedRanges_numericRanges]
    exact ⟨(0x30, 0x39), List.mem_cons_self, UInt32.le_iff_toNat_le.1 h.1,
      UInt32.le_iff_toNat_le.1 h.2⟩
  simp [Generator.isNameChar, Text.isAlphanumeric, hrange]

lemma isNameChar_colon : Generator.isNameChar ':' = false := by decide +kernel

lemma isNameChar_backquote : Generator.isNameChar '\x60' = false := by decide +kernel

variable {s : Signature}

/-- What stands in front of the name. -/
def lead (s : Signature) : List Char := s.path.elim [] fun path => path.toList ++ [':', ':']

lemma toList_fullName (s : Signature) : s.fullName.toList = s.lead ++ s.name.toList := by
  unfold fullName lead
  cases s.path <;> simp

/-- What is in front of the name ends with a colon, if it is not empty. -/
lemma getLast?_lead (s : Signature) : ∀ c ∈ s.lead.getLast?, c = ':' := by
  unfold lead
  cases s.path <;> simp [eq_comm]

lemma not_isNameChar_getLast?_lead (s : Signature) :
    ∀ c ∈ s.lead.getLast?, Generator.isNameChar c = false := by
  intro c hc
  rw [getLast?_lead s c hc, isNameChar_colon]

lemma front_fullName (h : Generator.isTypeName s.name = true) :
    front s.fullName.toList = s.lead := by
  rw [toList_fullName,
    front_append (Generator.isNameChar_of_isTypeName h) (not_isNameChar_getLast?_lead s)]

lemma ending_fullName (h : Generator.isTypeName s.name = true) :
    ending s.fullName.toList = s.name.toList := by
  rw [toList_fullName,
    ending_append (Generator.isNameChar_of_isTypeName h) (not_isNameChar_getLast?_lead s)]

lemma ofFullName_fullName (h : Generator.isTypeName s.name = true) (arity : Nat) :
    ofFullName s.fullName.toList arity = { s with arity := arity } := by
  rw [ofFullName, front_fullName h, ending_fullName h, String.ofList_toList, lead]
  cases s.path with
  | none => rfl
  | some path => simp [List.dropLast_append_of_ne_nil]

/-- What is read from an identity is what it was written for, whatever characters the path has. -/
theorem ofIdentity_identity (h : Generator.isTypeName s.name = true) :
    ofIdentity s.identity = s := by
  unfold identity
  by_cases harity : s.arity = 0
  · -- in front of the name there is no backquote
    have hfront : (front s.fullName.toList).getLast? ≠ some '\x60' := by
      rw [front_fullName h]
      exact fun hlast => absurd (getLast?_lead s _ hlast) (by decide)
    rw [if_pos harity, ofIdentity, if_neg hfront, ofFullName_fullName h, ← harity]
  · have hdigits : ∀ c ∈ (toString s.arity).toList, Generator.isNameChar c = true :=
      fun c hc => isNameChar_of_isDigit (Text.isDigit_of_mem_toString hc)
    have hlast : ∀ c ∈ (s.fullName.toList ++ ['\x60']).getLast?,
        Generator.isNameChar c = false := by
      simp [isNameChar_backquote]
    have htext : (s.fullName ++ "`" ++ toString s.arity).toList =
        s.fullName.toList ++ ['\x60'] ++ (toString s.arity).toList := by
      simp only [String.toList_append]
      rfl
    have hnumber : (toString s.arity).toNat? = some s.arity := Nat.toNat?_repr s.arity
    rw [if_neg harity, ofIdentity, htext, front_append hdigits hlast, ending_append hdigits hlast,
      if_pos (by simp), List.dropLast_concat, String.ofList_toList, hnumber, Option.getD_some,
      ofFullName_fullName h]

end Signature

/-! ## Candidates with the same identity -/

namespace Candidate

/-- The modules around a candidate as they are joined, if there are any. -/
def path? (c : Candidate) : Option String :=
  if c.modules = [] then none else some ("::".intercalate c.modules)

/-- What the identity of a candidate is written for. -/
def signature (c : Candidate) : Signature where
  path := c.path?
  name := c.name
  arity := c.typeParams.length

lemma fullName_signature (c : Candidate) : c.signature.fullName = c.fullName := by
  unfold Signature.fullName signature path? fullName
  by_cases h : c.modules = [] <;> simp [h]

lemma identity_signature (c : Candidate) : c.signature.identity = c.identity := by
  rw [Signature.identity, fullName_signature, identity]
  simp [signature]

variable {f g : Candidate}

lemma path?_eq_iff :
    f.path? = g.path? ↔
      (f.modules = [] ↔ g.modules = []) ∧
        "::".intercalate f.modules = "::".intercalate g.modules := by
  unfold path?
  by_cases hf : f.modules = [] <;> by_cases hg : g.modules = [] <;> simp [hf, hg]

lemma signature_eq_iff :
    f.signature = g.signature ↔
      f.name = g.name ∧ f.typeParams.length = g.typeParams.length ∧
        (f.modules = [] ↔ g.modules = []) ∧
          "::".intercalate f.modules = "::".intercalate g.modules := by
  rw [signature, signature, Signature.mk.injEq, ← path?_eq_iff]
  constructor
  · rintro ⟨hpath, hname, harity⟩
    exact ⟨hname, harity, hpath⟩
  · rintro ⟨hname, harity, hpath⟩
    exact ⟨hpath, hname, harity⟩

/-- **Identities are read in one way only.**  If the name of a candidate can be the name of a type,
the name, the number of type parameters and the path can be read from its identity.  So two such
candidates have the same identity exactly if their names are equal, they have equally many type
parameters, both or neither have modules around them, and the modules are joined to the same path.
Nothing that the modules are named with is taken for a part of the name or for a number. -/
theorem identity_eq_iff (hf : Generator.requireTypeName f = .ok ())
    (hg : Generator.requireTypeName g = .ok ()) :
    (f.identity = g.identity ↔
      f.name = g.name ∧ f.typeParams.length = g.typeParams.length ∧
        (f.modules = [] ↔ g.modules = []) ∧
          "::".intercalate f.modules = "::".intercalate g.modules) ∧
      Signature.ofIdentity f.identity = f.signature := by
  have hread : ∀ {c : Candidate}, Generator.requireTypeName c = .ok () →
      Signature.ofIdentity c.identity = c.signature := fun {c} hc => by
    rw [← identity_signature]
    exact Signature.ofIdentity_identity (Generator.requireTypeName_eq_ok_iff.1 hc)
  refine ⟨?_, hread hf⟩
  rw [← signature_eq_iff]
  constructor
  · intro h
    rw [← hread hf, ← hread hg, h]
  · intro h
    rw [← identity_signature, ← identity_signature, h]

/-- Modules with backquotes, numbers and colons in their names: those of the first two candidates
are joined to the same path, and the name of the third one's module reads like the identity of the
first. -/
theorem identity_eq_iff_forged :
    let f : Candidate := { name := "Lookup", modules := ["db`2", "a::b", ""], typeParams := ["T"] }
    let g : Candidate := { name := "Lookup", modules := ["db`2::a", "b::"], typeParams := ["E"] }
    let k : Candidate := { name := "Lookup", modules := ["db`2::a::b::::Lookup`1"] }
    f.identity = g.identity ∧ f.identity ≠ k.identity ∧
      Signature.ofIdentity f.identity = ⟨some "db`2::a::b::", "Lookup", 1⟩ := by
  intro f g k
  have hf : Generator.requireTypeName f = .ok () := by decide +kernel
  have hg : Generator.requireTypeName g = .ok () := by decide +kernel
  have hk : Generator.requireTypeName k = .ok () := by decide +kernel
  obtain ⟨hsame, hread⟩ := identity_eq_iff hf hg
  obtain ⟨hother, -⟩ := identity_eq_iff hf hk
  refine ⟨hsame.2 ⟨rfl, rfl, by decide, by decide⟩, fun h => ?_, hread.trans (by decide)⟩
  exact absurd (hother.1 h).2.1 (by decide)

end Candidate

end Stencil
