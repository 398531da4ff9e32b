/-!
# Digest algorithms

The algorithms that a pin may name, with their canonical names and the lengths
of their digests. Names are recognised whatever the case of their ASCII letters.
-/

namespace TrustPolicy

/-- An algorithm whose digests can be pinned. -/
inductive DigestAlgorithm
  | sha256
  deriving DecidableEq

namespace DigestAlgorithm

/-- The canonical name. -/
def name : DigestAlgorithm → String
  | .sha256 => "SHA-256"

/-- The number of bytes in a digest. -/
def digestLength : DigestAlgorithm → Nat
  | .sha256 => 32

/-- Whether two texts agree up to the case of ASCII letters. -/
def sameUpToCase (first second : String) : Bool :=
  first.toList.map Char.toUpper == second.toList.map Char.toUpper

/-- The algorithm that a text names. -/
def ofName? (text : String) : Option DigestAlgorithm :=
  if sameUpToCase text DigestAlgorithm.sha256.name then some .sha256 else none

end DigestAlgorithm
end TrustPolicy
