import Stencil.Memo
import Stencil.Pattern.Coverage
import Stencil.Pattern.Filler

/-!
# Remembered scans

The placeholders of a pattern depend on its text and on the bound on the length of names alone.
They are remembered under the digest of the text and the bound, so that a pattern is scanned once
however often it is filled.
-/

namespace Stencil

/-- The placeholders of patterns that have been scanned, by digest and bound. -/
abbrev ScanMemo := Memo (Digest × Nat) (List Placeholder)

namespace ScanMemo

/-- Nothing scanned yet. -/
def empty : ScanMemo := Table.empty

variable [TextHash]

/-- The key that a scan is remembered under. -/
def key (f : Filler) (pattern : String) : Digest × Nat := (Digest.ofPattern pattern, f.bound)

/-- The placeholders of a pattern, and the memo afterwards. -/
def placeholders (memo : ScanMemo) (f : Filler) (pattern : String) :
    List Placeholder × ScanMemo :=
  let fetched := Memo.fetch memo (key f pattern) fun _ => f.placeholders pattern
  (fetched.value, fetched.memo)

/-- The coverage of a pattern by bindings, and the memo afterwards. -/
def coverage (memo : ScanMemo) (f : Filler) (pattern : String) (b : Bindings) :
    Coverage × ScanMemo :=
  let (found, memo) := memo.placeholders f pattern
  (Coverage.between found b, memo)

end ScanMemo

end Stencil
