import TrustPolicy.Der.Indefinite
import TrustPolicy.X509.Name
import TrustPolicy.X509.Time

/-!
# The structure of certificates

A certificate is a signed part, the algorithm of the signature, and the
signature. Of these only the names of the issuer and the subject are kept. The
signature is not verified, and the contents of extensions do not matter.
-/

namespace TrustPolicy
namespace X509

open Der (Reader)

/-- The names in a certificate. -/
structure Names where
  issuer : Name
  subject : Name
  deriving DecidableEq

/-- The version, which is absent if the next element has another tag number. -/
def version : Reader Unit := do
  match ← Der.nextElement with
  | none => pure ()
  | some next =>
      if next.tag ≠ 0 then pure ()
      else if next.identifier.tagClass = .context then
        Der.tagged 0 (Der.within Der.smallNatural)
      else failure

/-- The serial number, which may have an indefinite length. -/
def serialNumber : Reader Unit := do
  if (← Der.skipElement) = 2 then pure () else failure

/-- An algorithm, with or without parameters. -/
def algorithm : Reader Unit :=
  Der.tagged 16 <| Der.within do
    let _ ← Der.objectId
    let _ ← Der.nextElement
    pure ()

/-- The two times between which a certificate is valid. -/
def validity : Reader Unit :=
  Der.tagged 16 <| Der.within do
    time
    time

/-- A public key with its algorithm. -/
def publicKey : Reader Unit :=
  Der.tagged 16 <| Der.within do
    algorithm
    Der.bitString

/-- A unique identifier, which is absent if the next element has another tag number. -/
def uniqueId (tag : Nat) : Reader Unit := do
  match ← Der.nextIdentifier with
  | none => pure ()
  | some next =>
      if next.tag ≠ tag then pure ()
      else
        let found ← Der.element
        if found.identifier.tagClass = .context ∧ found.content ≠ [] then pure () else failure

/-- The flag that marks an extension as critical, if it is present. -/
def optionalCritical : Reader Unit := do
  match ← Der.nextElement with
  | none => pure ()
  | some next =>
      if next.tag ≠ 1 then pure ()
      else if next.content.length = 1 then
        Der.tagged 1 fun _ => some ()
      else failure

/-- An extension. -/
def extension : Reader Unit :=
  Der.tagged 16 <| Der.within do
    let _ ← Der.objectId
    optionalCritical
    let value ← Der.element
    if value.tag = 4 ∧ value.identifier.constructed = false then pure () else failure

/-- Extensions, which fill the rest of the signed part if there are any. The
length that introduces them is not used. -/
def extensions : Reader Unit := do
  if (← get).isEmpty then pure ()
  else
    let (introduction, _) ← Der.header
    if introduction.tag = 3 then
      let _ ← Der.tagged 16 (Der.allOf (Der.many extension))
      if (← get).isEmpty then pure () else failure
    else failure

/-- The signed part of a certificate. -/
def signedPart : Reader Names :=
  Der.tagged 16 <| Der.within do
    version
    serialNumber
    algorithm
    let issuer ← Name.read
    validity
    let subject ← Name.read
    publicKey
    uniqueId 1
    uniqueId 2
    extensions
    pure ⟨issuer, subject⟩

/-- The content of a certificate. -/
def certificateContent : Reader Names := do
  let names ← signedPart
  algorithm
  Der.bitString
  pure names

/-- A certificate. -/
def certificate : Reader Names :=
  Der.tagged 16 (Der.within certificateContent)

end X509
end TrustPolicy
