import TrustPolicy.Base64.Decode
import TrustPolicy.DigestAlgorithm
import TrustPolicy.PolicyError
import TrustPolicy.Text.Blank
import TrustPolicy.Text.Layout
import TrustPolicy.Text.Quoted

/-!
# Pins

A pin is an expected digest. Its digest always has the length that its
algorithm asks for, so pins are made by functions that check it. Pins are
ordered by the name of their algorithm and then by their digest.
-/

namespace TrustPolicy

/-- An expected digest of a public key. -/
structure Pin where
  algorithm : DigestAlgorithm
  digest : List UInt8
  /-- The digest has the length of the algorithm's digests. -/
  digest_length : digest.length = algorithm.digestLength
  deriving DecidableEq

/-- Why no pin can be made from an algorithm's name and a digest. -/
inductive PinError
  | undecodable (cause : Base64.DecodeError)
  | unsupportedAlgorithm (name : String)
  | wrongLength (algorithm : DigestAlgorithm) (length : Nat)
  deriving DecidableEq

namespace PinError

/-- The cause in words. -/
def message : PinError → String
  | .undecodable cause => "digest is not valid base64: " ++ cause.message
  | .unsupportedAlgorithm name => "unsupported digest algorithm: " ++ name
  | .wrongLength algorithm length =>
      s!"{algorithm.name} digest must be {algorithm.digestLength} bytes, got {length}"

/-- The refusal of a pin among the errors of policies. -/
def toPolicyError (error : PinError) : PolicyError :=
  .invalidPin error.message

end PinError

namespace Pin

/-- The pin of a digest under an algorithm that is given by name. The name is
checked before the length. -/
def ofDigest
    (name : String)
    (digest : List UInt8) : Except PinError Pin :=
  match DigestAlgorithm.ofName? name with
  | none => .error (.unsupportedAlgorithm name)
  | some algorithm =>
      if length : digest.length = algorithm.digestLength then .ok ⟨algorithm, digest, length⟩
      else .error (.wrongLength algorithm digest.length)

/-- The pin of a digest in base64 text, blank characters at its ends apart. The
text is checked before the algorithm's name. -/
def ofBase64
    (name text : String) : Except PinError Pin :=
  match Base64.decode (Text.trim text).toUTF8.data.toList with
  | .error cause => .error (.undecodable cause)
  | .ok digest => ofDigest name digest

/-- The SHA-256 pin of a digest of 32 bytes. -/
def sha256
    (digest : List UInt8)
    (length : digest.length = 32) : Pin :=
  ⟨.sha256, digest, length⟩

/-- The SHA-256 pin whose digest repeats one byte. -/
def repeated (byte : UInt8) : Pin :=
  sha256 (List.replicate 32 byte) List.length_replicate

/-- The digest as padded base64 text. -/
def toBase64 (pin : Pin) : String :=
  Base64.encode pin.digest

instance : LT Pin where
  lt first second :=
    first.algorithm.name < second.algorithm.name ∨
      first.algorithm = second.algorithm ∧ first.digest < second.digest

theorem lt_def
    {first second : Pin} :
    first < second ↔
      first.algorithm.name < second.algorithm.name ∨
        first.algorithm = second.algorithm ∧ first.digest < second.digest := Iff.rfl

instance (first second : Pin) : Decidable (first < second) :=
  decidable_of_iff _ lt_def.symm

instance : Ord Pin where
  compare first second := compareOfLessAndEq first second

instance : Hashable Pin where
  hash pin := mixHash (hash pin.algorithm.name) (hash pin.digest)

/-- A pin is determined by its digest. -/
theorem ext_digest
    {first second : Pin}
    (digest_eq : first.digest = second.digest) : first = second := by
  obtain ⟨⟨⟩, firstDigest, _⟩ := first
  obtain ⟨⟨⟩, secondDigest, _⟩ := second
  simp only at digest_eq
  subst digest_eq
  rfl

/-- Pins are ordered as their digests are. -/
theorem lt_iff
    {first second : Pin} :
    first < second ↔ first.digest < second.digest := by
  obtain ⟨⟨⟩, firstDigest, _⟩ := first
  obtain ⟨⟨⟩, secondDigest, _⟩ := second
  simp [lt_def]

theorem lt_trans
    {first second third : Pin}
    (firstSecond : first < second)
    (secondThird : second < third) : first < third :=
  lt_iff.2 (List.lt_trans (lt_iff.1 firstSecond) (lt_iff.1 secondThird))

/-- Of two different pins that are not in order the second comes first. -/
theorem lt_of_not_lt
    {first second : Pin}
    (notBefore : ¬ first < second)
    (different : first ≠ second) : second < first := by
  rw [lt_iff] at notBefore ⊢
  apply Decidable.byContradiction
  intro notAfter
  exact different (ext_digest (List.le_antisymm (List.not_lt.1 notAfter) (List.not_lt.1 notBefore)))

/-- The pin with its bytes in decimal numbers. -/
def describe (pin : Pin) : String :=
  Text.record "Pin"
    [("digest_algorithm", Text.quote pin.algorithm.name),
      ("digest", Text.listing (pin.digest.map fun byte => toString byte.toNat))]

end Pin
end TrustPolicy
