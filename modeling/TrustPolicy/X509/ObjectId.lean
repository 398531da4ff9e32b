import TrustPolicy.Hex

/-!
# Types of name attributes

The type of an attribute is an object identifier. Registered types have a short
name; the others are shown by their arcs. The arcs after the first two are
numbers in base 128 whose last byte has its high bit clear.
-/

namespace TrustPolicy
namespace X509

/-- Base-128 bytes cut after each byte whose high bit is clear: the complete
arcs, and the bytes of an unfinished arc at the end. -/
def splitArcs : List UInt8 → List (List UInt8) × List UInt8
  | [] => ([], [])
  | byte :: rest =>
      let (complete, unfinished) := splitArcs rest
      if byte < 0x80 then ([byte] :: complete, unfinished)
      else
        match complete with
        | [] => ([], byte :: unfinished)
        | first :: others => ((byte :: first) :: others, unfinished)

/-- The number that base-128 bytes stand for, modulo `2 ^ 64`. -/
def arcValue (bytes : List UInt8) : Nat :=
  bytes.foldl (fun value byte => value * 128 + byte.toNat % 128) 0 % UInt64.size

/-- The arcs of an object identifier, if every complete one fits 64 bits. -/
def arcs? : List UInt8 → Option (List Nat)
  | [] => some []
  | [0] => some [0]
  | first :: rest =>
      let (complete, unfinished) := splitArcs rest
      if complete.all fun arc => arc.length < 10 then
        let last := if unfinished.isEmpty then [] else [arcValue unfinished]
        some (first.toNat / 40 :: first.toNat % 40 :: complete.map arcValue ++ last)
      else none

/-- An object identifier by its arcs, or by its bytes if an arc is too large. -/
def objectIdText (id : List UInt8) : String :=
  match arcs? id with
  | some arcs => String.intercalate "." (arcs.map toString)
  | none => String.intercalate " " (id.map fun byte => Hex.lower [byte])

/-- The registered types of attributes with their short names. -/
def registeredTypes : List (List UInt8 × String) :=
  [([0x55, 0x04, 0x03], "CN"),
   ([0x55, 0x04, 0x06], "C"),
   ([0x55, 0x04, 0x07], "L"),
   ([0x55, 0x04, 0x08], "ST"),
   ([0x55, 0x04, 0x0A], "O"),
   ([0x55, 0x04, 0x0B], "OU"),
   ([0x09, 0x92, 0x26, 0x89, 0x93, 0xF2, 0x2C, 0x64, 0x01, 0x19], "DC"),
   ([0x2A, 0x86, 0x48, 0x86, 0xF7, 0x0D, 0x01, 0x09, 0x01], "Email"),
   ([0x09, 0x92, 0x26, 0x89, 0x93, 0xF2, 0x2C, 0x64, 0x01, 0x01], "uid"),
   ([0x2B, 0x06, 0x01, 0x04, 0x01, 0x82, 0x37, 0x3C, 0x02, 0x01, 0x03], "msJurisdictionCountry"),
   ([0x55, 0x04, 0x00], "objectClass"),
   ([0x55, 0x04, 0x01], "aliasedEntryName"),
   ([0x55, 0x04, 0x02], "knowledgeInformation"),
   ([0x55, 0x04, 0x04], "surname"),
   ([0x55, 0x04, 0x05], "serialNumber"),
   ([0x55, 0x04, 0x09], "streetAddress"),
   ([0x55, 0x04, 0x0C], "title"),
   ([0x55, 0x04, 0x0D], "description"),
   ([0x55, 0x04, 0x0E], "searchGuide"),
   ([0x55, 0x04, 0x0F], "businessCategory"),
   ([0x55, 0x04, 0x10], "postalAddress"),
   ([0x55, 0x04, 0x11], "postalCode"),
   ([0x55, 0x04, 0x29], "name"),
   ([0x55, 0x04, 0x2A], "givenName"),
   ([0x55, 0x04, 0x2B], "initials"),
   ([0x55, 0x04, 0x2C], "generationQualifier"),
   ([0x55, 0x04, 0x2D], "uniqueIdentifier"),
   ([0x55, 0x04, 0x2E], "dnQualifier")]

/-- A type of attribute: its short name, or its object identifier. -/
def typeText (id : List UInt8) : String :=
  match registeredTypes.lookup id with
  | some name => name
  | none => "OID(" ++ objectIdText id ++ ")"

end X509
end TrustPolicy
