/-!
# Builder identifiers

A builder that is kept in a set is addressed by the number of the set and its
position there, so an identifier of one set means nothing to another.
-/

namespace TrustPolicy

/-- The address of a builder in a set of builders. -/
structure BuilderId where
  /-- The number of the set. -/
  set : Nat
  /-- The position in that set. -/
  index : Nat
  deriving DecidableEq

/-- The identifier as it is shown. -/
def BuilderId.text (id : BuilderId) : String :=
  s!"builder {id.set}/{id.index}"

end TrustPolicy
