import Stencil.Bindings
import Stencil.Pattern.Placeholder

/-!
# Coverage

Coverage compares the placeholders of a pattern with the keys of bindings, in both directions:
which placeholders would be left open, and which keys no placeholder asks for.
-/

namespace Stencil

/-- What placeholders and bindings lack of each other. -/
structure Coverage where
  /-- The placeholders without a binding, in the order given. -/
  missing : List Placeholder
  /-- The keys that no placeholder names, in increasing order. -/
  unused : List String
deriving DecidableEq

namespace Coverage

/-- Compares placeholders with bindings. -/
def between (placeholders : List Placeholder) (b : Bindings) : Coverage where
  missing := placeholders.filter fun p => !b.contains p.name
  unused := b.sortedKeys.filter fun key => !placeholders.any fun p => p.name == key

/-- Whether no placeholder would be left open; keys without a placeholder do no harm. -/
def isComplete (c : Coverage) : Bool := c.missing.isEmpty

end Coverage

end Stencil
