import TrustPolicy.PolicyError
import TrustPolicy.Sha256
import TrustPolicy.Text.Layout
import TrustPolicy.Text.Quoted
import TrustPolicy.X509.Structure

/-!
# Certificates

A certificate is a byte string that decodes, together with the names and the
fingerprint that the bytes determine. Two certificates are equal exactly when
their bytes are.
-/

namespace TrustPolicy

/-- A byte string that is one certificate, with its names and its fingerprint. -/
structure Certificate where
  der : List UInt8
  names : X509.Names
  /-- The SHA-256 digest of the bytes. -/
  fingerprint : List UInt8
  /-- The bytes are one certificate with these names. -/
  decodes : X509.certificate der = some (names, [])
  fingerprint_eq : fingerprint = Sha256.digest der

/-- Why a byte string is not a certificate. -/
inductive CertificateError
  | malformed
  | trailingBytes (count : Nat)
  deriving DecidableEq

namespace CertificateError

/-- The cause in words. -/
def message : CertificateError → String
  | .malformed => "x509 parse failed"
  | .trailingBytes count => s!"{count} trailing bytes after certificate"

/-- The refusal of a certificate among the errors of policies. -/
def toPolicyError (error : CertificateError) : PolicyError :=
  .invalidCertificate error.message

end CertificateError

namespace Certificate

/-- The certificate that a byte string is. -/
def ofDer (der : List UInt8) : Except CertificateError Certificate :=
  match decoded : X509.certificate der with
  | none => .error .malformed
  | some (names, []) => .ok ⟨der, names, Sha256.digest der, decoded, rfl⟩
  | some (_, byte :: rest) => .error (.trailingBytes (byte :: rest).length)

/-- A certificate is determined by its bytes. -/
theorem ext_der
    {first second : Certificate}
    (der_eq : first.der = second.der) : first = second := by
  obtain ⟨firstDer, firstNames, firstFingerprint, firstDecodes, firstFingerprintEq⟩ := first
  obtain ⟨secondDer, secondNames, secondFingerprint, secondDecodes, secondFingerprintEq⟩ := second
  simp only at der_eq
  subst der_eq firstFingerprintEq secondFingerprintEq
  rw [firstDecodes] at secondDecodes
  obtain rfl : firstNames = secondNames := by simpa using secondDecodes
  rfl

instance : DecidableEq Certificate := fun first second =>
  decidable_of_iff (first.der = second.der)
    ⟨ext_der, fun certificates_eq => certificates_eq ▸ rfl⟩

instance : Hashable Certificate where
  hash certificate := hash certificate.der

/-- The subject's name as text. -/
def subject (certificate : Certificate) : String :=
  certificate.names.subject.text

/-- The issuer's name as text. -/
def issuer (certificate : Certificate) : String :=
  certificate.names.issuer.text

/-- The fingerprint in upper-case hexadecimal digits. -/
def fingerprintHex (certificate : Certificate) : String :=
  Hex.upper certificate.fingerprint

/-- Whether the names of subject and issuer are shown alike. -/
def isSelfIssued (certificate : Certificate) : Bool :=
  certificate.subject == certificate.issuer

/-- The certificate with its names and its fingerprint. -/
def describe (certificate : Certificate) : String :=
  Text.record "Certificate"
    [("subject", Text.quote certificate.subject),
      ("issuer", Text.quote certificate.issuer),
      ("fingerprint_sha256", Text.quote certificate.fingerprintHex)]

end Certificate
end TrustPolicy
