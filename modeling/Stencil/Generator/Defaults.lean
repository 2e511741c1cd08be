import Stencil.Generator.Holder
import Stencil.Generator.Sequences
import Stencil.Generator.ValueObject

/-!
# The default generators
-/

namespace Stencil.Generator

/-- The built-in generators in the order in which they run. -/
def defaults : List Generator := [Holder.generator, ValueObject.generator, Sequences.generator]

end Stencil.Generator
