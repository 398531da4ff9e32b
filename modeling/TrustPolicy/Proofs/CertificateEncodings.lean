import TrustPolicy.Der.Delimited
import TrustPolicy.Proofs.Aggregation

/-!
# Encodings of certificates

A certificate is one element that tells its own length, so its encoding ends where the
element does. A byte string that starts with an encoding and goes on is refused for what
comes after it, and one that is cut short is no encoding of anything. So a certificate has
one encoding, and one fingerprint.
-/

namespace TrustPolicy

namespace CertificateError

/-- The message that counts trailing bytes is used for nothing else. -/
theorem message_eq_iff
    {error : CertificateError}
    {count : Nat} :
    error.message = s!"{count} trailing bytes after certificate" ↔
      error = .trailingBytes count := by
  cases error with
  | malformed =>
      have different : CertificateError.malformed.message ≠
          s!"{count} trailing bytes after certificate" := by
        intro same
        have lastSame : "x509 parse failed".toList.getLast? =
            (count.repr ++ " trailing bytes after certificate").toList.getLast? :=
          congrArg (fun text => text.toList.getLast?) same
        simp at lastSame
      simpa using different
  | trailingBytes other =>
      have readBack : Function.LeftInverse
          (fun text : String => Nat.ofDigitChars 10 text.toList 0) Nat.repr := by
        intro number
        dsimp only
        rw [Nat.toList_repr, Nat.ofDigitChars_ten_toDigits]
      simp [message, readBack.injective.eq_iff]

end CertificateError

/-- What is read under a tag number is the content of one element. -/
theorem Der.exists_element_of_tagged
    {tag : Nat}
    {inside : List UInt8 → Option α}
    {input rest : List UInt8}
    {value : α}
    (reads : Der.tagged tag inside input = some (value, rest)) :
    ∃ element, Der.element input = some (element, rest) ∧ element.tag = tag ∧
      inside element.content = some value := by
  rw [Der.tagged] at reads
  simp only [Bind.bind, StateT.bind, Option.bind_eq_some_iff] at reads
  obtain ⟨⟨element, middle⟩, found, readsInside⟩ := reads
  dsimp only at readsInside
  split at readsInside
  case isTrue sameTag =>
    cases inner : inside element.content with
    | none => simp [StateT.lift, inner] at readsInside
    | some content =>
        obtain ⟨rfl, rfl⟩ : content = value ∧ middle = rest := by
          simpa [StateT.lift, inner] using readsInside
        exact ⟨element, found, sameTag, inner⟩
  case isFalse => exact absurd readsInside (by simp [failure, StateT.failure])

namespace Certificate

/-- Whether a byte string is one certificate. -/
def Encodes (bytes : List UInt8) : Prop :=
  ∃ certificate, ofDer bytes = .ok certificate

section Decoding

variable
  {input taken rest : List UInt8}
  {certificate : Certificate}
  {count : Nat}

/-- Decoding keeps the whole input, and finds each certificate in its own bytes. -/
theorem ofDer_eq_ok_iff :
    ofDer input = .ok certificate ↔ certificate.der = input := by
  constructor
  · intro decoded
    unfold ofDer at decoded
    split at decoded
    case h_2 => exact congrArg Certificate.der (Except.ok.inj decoded).symm
    all_goals exact absurd decoded (by simp)
  · rintro rfl
    unfold ofDer
    split
    case h_1 unread => exact absurd (unread.symm.trans certificate.decodes) (by simp)
    case h_2 => exact congrArg Except.ok (ext_der rfl)
    case h_3 trailing => exact absurd (trailing.symm.trans certificate.decodes) (by simp)

theorem encodes_iff :
    Encodes input ↔ ∃ names, X509.certificate input = some (names, []) := by
  constructor
  · rintro ⟨certificate, decoded⟩
    obtain rfl := ofDer_eq_ok_iff.1 decoded
    exact ⟨certificate.names, certificate.decodes⟩
  · rintro ⟨names, decodes⟩
    exact ⟨⟨input, names, _, decodes, rfl⟩, ofDer_eq_ok_iff.2 rfl⟩

/-- Trailing bytes are those that the reader of certificates leaves. -/
theorem ofDer_eq_trailingBytes_iff :
    ofDer input = .error (.trailingBytes count) ↔
      0 < count ∧ ∃ names rest, X509.certificate input = some (names, rest) ∧
        rest.length = count := by
  unfold ofDer
  split
  case h_1 unread => simp [unread]
  case h_2 names decoded =>
    simp only [reduceCtorEq, false_iff, decoded]
    rintro ⟨positive, _, rest, found, rfl⟩
    obtain ⟨rfl, rfl⟩ := Prod.mk.inj (Option.some.inj found)
    exact absurd positive (Nat.lt_irrefl 0)
  case h_3 names byte rest decoded =>
    simp only [Except.error.injEq, CertificateError.trailingBytes.injEq, decoded]
    constructor
    · rintro rfl
      exact ⟨Nat.succ_pos _, names, byte :: rest, rfl, rfl⟩
    · rintro ⟨-, _, _, found, rfl⟩
      obtain ⟨rfl, rfl⟩ := Prod.mk.inj (Option.some.inj found)
      rfl

/-- The reader of certificates finds the same whatever comes after the bytes that it takes. -/
theorem selfDelimiting_certificate : Der.SelfDelimiting X509.certificate :=
  .tagged 16 _

/-- An encoding is one element, which ends where it does. -/
theorem exists_element_of_encodes
    (encodes : Encodes input) :
    ∃ element, Der.element input = some (element, []) ∧ element.tag = 16 := by
  obtain ⟨names, decodes⟩ := encodes_iff.1 encodes
  obtain ⟨element, found, sameTag, -⟩ := Der.exists_element_of_tagged decodes
  exact ⟨element, found, sameTag⟩

/-- After an encoding the reader leaves whatever follows. -/
theorem certificate_append
    (encodes : Encodes taken)
    (rest : List UInt8) :
    ∃ names, X509.certificate (taken ++ rest) = some (names, rest) := by
  obtain ⟨names, decodes⟩ := encodes_iff.1 encodes
  obtain ⟨whole, split, again⟩ := selfDelimiting_certificate _ _ _ decodes
  rw [List.append_nil] at split
  exact ⟨names, split ▸ again rest⟩

/-- A byte string has trailing bytes exactly if it is an encoding with more bytes after it. -/
theorem ofDer_eq_trailingBytes_iff_exists_append :
    ofDer input = .error (.trailingBytes count) ↔
      0 < count ∧ ∃ taken rest, input = taken ++ rest ∧ Encodes taken ∧ rest.length = count := by
  rw [ofDer_eq_trailingBytes_iff]
  refine and_congr_right fun _ => ?_
  constructor
  · rintro ⟨names, rest, found, length⟩
    obtain ⟨taken, rfl, again⟩ := selfDelimiting_certificate _ _ _ found
    refine ⟨taken, rest, rfl, encodes_iff.2 ⟨names, ?_⟩, length⟩
    simpa using again []
  · rintro ⟨taken, rest, rfl, encodes, length⟩
    obtain ⟨names, found⟩ := certificate_append encodes rest
    exact ⟨names, rest, found, length⟩

theorem ofDer_append
    (encodes : Encodes taken)
    (further : rest ≠ []) :
    ofDer (taken ++ rest) = .error (.trailingBytes rest.length) :=
  ofDer_eq_trailingBytes_iff_exists_append.2
    ⟨List.length_pos_iff.2 further, taken, rest, rfl, encodes, rfl⟩

/-- An encoding that goes on is no encoding. -/
theorem not_encodes_append
    (encodes : Encodes taken)
    (further : rest ≠ []) :
    ¬Encodes (taken ++ rest) := by
  rintro ⟨certificate, decoded⟩
  exact absurd ((ofDer_append encodes further).symm.trans decoded) (by simp)

/-- An encoding that is cut short is not read at all: if something were found in it, the
encoding would have trailing bytes. -/
theorem ofDer_of_cut_short
    (encodes : Encodes (taken ++ rest))
    (further : rest ≠ []) :
    ofDer taken = .error .malformed := by
  cases decoded : ofDer taken with
  | ok certificate => exact absurd encodes (not_encodes_append ⟨certificate, decoded⟩ further)
  | error error =>
      cases error with
      | malformed => rfl
      | trailingBytes count =>
          obtain ⟨-, first, second, rfl, firstEncodes, -⟩ :=
            ofDer_eq_trailingBytes_iff_exists_append.1 decoded
          rw [List.append_assoc] at encodes
          exact absurd encodes (not_encodes_append firstEncodes (by simp [further]))

end Decoding

/-- What the encoding of a certificate tells it apart from. -/
structure StandsAlone
    (encoding : List UInt8)
    (certificate : Certificate) : Prop where
  /-- The certificate keeps all of its encoding. -/
  kept : certificate.der = encoding
  /-- The encoding is one element from its first byte to its last. -/
  element : ∃ element, Der.element encoding = some (element, []) ∧ element.tag = 16
  /-- No longer byte string is an encoding. -/
  extended : ∀ rest, rest ≠ [] → ofDer (encoding ++ rest) = .error (.trailingBytes rest.length)
  /-- No shorter byte string is an encoding. -/
  cutShort : ∀ taken rest, taken ++ rest = encoding → rest ≠ [] → ofDer taken = .error .malformed
  /-- Certificates are equal exactly if their encodings are. -/
  equal : ∀ other certificateOf, ofDer other = .ok certificateOf →
    ((certificate == certificateOf) = true ↔ encoding = other)
  /-- Equal certificates have the same fingerprint and the same names. -/
  agrees : ∀ other certificateOf, ofDer other = .ok certificateOf → encoding = other →
    certificate.fingerprint = certificateOf.fingerprint ∧
      certificate.subject = certificateOf.subject ∧ certificate.issuer = certificateOf.issuer ∧
      certificate.isSelfIssued = certificateOf.isSelfIssued ∧ hash certificate = hash certificateOf

/-- A byte string is refused for a number of trailing bytes exactly if it is an encoding of a
certificate with that many bytes after it. So an encoding is told apart from whatever it is
part of, and from its own parts. -/
theorem encodings_stand_alone :
    (∀ input count,
      (∃ error, ofDer input = .error error ∧
        error.toPolicyError =
          .invalidCertificate s!"{count} trailing bytes after certificate") ↔
      0 < count ∧ ∃ taken rest, input = taken ++ rest ∧ Encodes taken ∧ rest.length = count) ∧
    ∀ encoding certificate, ofDer encoding = .ok certificate →
      StandsAlone encoding certificate := by
  constructor
  · intro input count
    rw [← ofDer_eq_trailingBytes_iff_exists_append]
    simp only [CertificateError.toPolicyError, PolicyError.invalidCertificate.injEq,
      CertificateError.message_eq_iff, exists_eq_right]
  · intro encoding certificate decoded
    have encodes : Encodes encoding := ⟨certificate, decoded⟩
    obtain rfl := ofDer_eq_ok_iff.1 decoded
    refine {
      kept := rfl
      element := exists_element_of_encodes encodes
      extended := fun rest => ofDer_append encodes
      cutShort := ?_
      equal := ?_
      agrees := ?_ }
    · intro taken rest split further
      exact ofDer_of_cut_short (split ▸ encodes) further
    · intro other certificateOf otherDecoded
      obtain rfl := ofDer_eq_ok_iff.1 otherDecoded
      exact beq_iff_eq.trans ⟨congrArg Certificate.der, ext_der⟩
    · intro other certificateOf otherDecoded same
      obtain rfl := ofDer_eq_ok_iff.1 otherDecoded
      obtain rfl := ext_der same
      exact ⟨rfl, rfl, rfl, rfl, rfl⟩

/-- One content under a length of one byte and under one of two bytes: two certificates. Bytes
after the second are counted, and the first is not read without its last byte. -/
theorem encodings_stand_alone_of_unlike_lengths :
    let content := World.namelessCertificate.der.drop 2
    let short : List UInt8 := 0x30 :: 0x3C :: content
    let long : List UInt8 := 0x30 :: 0x81 :: 0x3C :: content
    ∃ first second, ofDer short = .ok first ∧ ofDer long = .ok second ∧
      first.der = short ∧ ¬(first == second) = true ∧
      (∃ error, ofDer (long ++ [0x30, 0x00]) = .error error ∧
        error.toPolicyError = .invalidCertificate "2 trailing bytes after certificate") ∧
      ofDer (0x30 :: 0x3C :: content.dropLast) = .error .malformed := by
  intro content short long
  obtain ⟨first, decoded⟩ : Encodes short := encodes_iff.2 ⟨⟨[], []⟩, by decide⟩
  obtain ⟨second, decodedLong⟩ : Encodes long := encodes_iff.2 ⟨⟨[], []⟩, by decide⟩
  have alone := encodings_stand_alone.2 short first decoded
  refine ⟨first, second, decoded, decodedLong, alone.kept, ?_, ?_, ?_⟩
  · exact mt (alone.equal long second decodedLong).1 (by decide)
  · exact (encodings_stand_alone.1 _ 2).2 ⟨by decide, long, _, rfl, ⟨second, decodedLong⟩, rfl⟩
  · exact alone.cutShort _ [0x00] rfl (by decide)

end Certificate
end TrustPolicy
