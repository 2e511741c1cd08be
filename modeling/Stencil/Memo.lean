import Stencil.Table

/-!
# Memos

A memo keeps what has been derived for a key, so that nothing is derived twice for the same key.
What is kept is never replaced; it goes when the memo is emptied.
-/

namespace Stencil

variable {κ υ : Type}

/-- What has been derived so far. -/
abbrev Memo (κ υ : Type) := Table κ υ

/-- What asking a memo gives: the value, the memo afterwards, and whether the value had to be
derived. -/
structure Fetched (κ υ : Type) where
  value : υ
  memo : Memo κ υ
  derived : Bool

namespace Memo

/-- The value kept for a key, or else the derived one, which is kept from then on. -/
def fetch [DecidableEq κ] (memo : Memo κ υ) (key : κ) (derive : Unit → υ) : Fetched κ υ :=
  match memo.get? key with
  | some value => ⟨value, memo, false⟩
  | none => let value := derive (); ⟨value, memo.put key value, true⟩

end Memo

end Stencil
