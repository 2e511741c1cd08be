import Stencil.Artifact.Kind
import Stencil.Bindings
import Stencil.Text.Quoted
import Stencil.Text.Record

/-!
# Descriptors

A descriptor says everything that the text of an artifact depends on: the identity that the
artifact goes by, its kind, and the bindings that its pattern is filled with.  Descriptors are
compared to decide whether an artifact made earlier still holds.

The comparison (`==`) looks at the fingerprints before it looks at the bindings.  This saves time
and changes nothing: equal descriptors have equal fingerprints whatever the hash of texts is.
-/

namespace Stencil

/-- Everything that an artifact is made from. -/
structure Descriptor where
  identity : String
  kind : Kind
  bindings : Bindings

namespace Descriptor

/-- Two descriptors say the same: identity and kind are equal, and so is what every text is bound
to.  The order in which keys were bound may differ. -/
structure Agrees (a b : Descriptor) : Prop where
  identity : a.identity = b.identity
  kind : a.kind = b.kind
  get? : ∀ key, a.bindings.get? key = b.bindings.get? key

variable [TextHash]

/-- The digest of identity, kind and bindings. -/
def fingerprint (d : Descriptor) : Digest :=
  (Digest.ofIdentity d.kind.tag d.identity).mix d.bindings.digest

/-- Whether two descriptors have the same identity, kind and bindings. -/
def same (a b : Descriptor) : Bool :=
  a.identity == b.identity && a.kind == b.kind && a.bindings.size == b.bindings.size &&
    a.fingerprint == b.fingerprint && a.bindings.subsumed b.bindings

instance : BEq Descriptor := ⟨same⟩

instance : Hashable Descriptor := ⟨fun d => d.fingerprint.bits⟩

/-- The inspection text of a descriptor, which gives the number of its bindings. -/
def inspect (d : Descriptor) : String :=
  Text.record "Descriptor"
    [("identity", Text.quote d.identity), ("kind", d.kind.inspect),
      ("entries", toString d.bindings.size), ("fingerprint", d.fingerprint.inspect)]

end Descriptor

end Stencil
