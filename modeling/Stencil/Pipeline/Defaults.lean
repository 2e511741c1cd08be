import Stencil.Generator.Defaults
import Stencil.Pipeline.Basic

/-!
# Pipelines with the default generators
-/

namespace Stencil.Pipeline

/-- A pipeline with the default generators. -/
def withDefaults (o : Options) (config : Config) : Pipeline :=
  { empty o config with generators := Generator.defaults, distinct := by decide }

end Stencil.Pipeline
