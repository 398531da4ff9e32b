/-!
# Encoded text

Byte strings read as UTF-8 or as big-endian UTF-16 text. Both refuse byte
strings that are no valid encoding.
-/

namespace TrustPolicy
namespace Text

/-- The text whose UTF-8 encoding the bytes are. -/
def ofUtf8? (bytes : List UInt8) : Option String :=
  String.fromUTF8? ⟨bytes.toArray⟩

/-- Bytes in units of two, the high byte first; a lone last byte is a unit. -/
def units : List UInt8 → List Nat
  | high :: low :: rest => (high.toNat * 256 + low.toNat) :: units rest
  | [only] => [only.toNat]
  | [] => []

/-- The characters of UTF-16 units. A unit of the high surrogate range must be
followed by one of the low range, and no other unit may be of these ranges. -/
def ofUnits? : List Nat → Option (List Char)
  | [] => some []
  | unit :: rest =>
      if unit < 0xD800 ∨ 0xE000 ≤ unit then (ofUnits? rest).map (Char.ofNat unit :: ·)
      else if unit < 0xDC00 then
        match rest with
        | low :: others =>
            if 0xDC00 ≤ low ∧ low < 0xE000 then
              (ofUnits? others).map
                (Char.ofNat (0x10000 + (unit - 0xD800) * 0x400 + (low - 0xDC00)) :: ·)
            else none
        | [] => none
      else none

/-- The text whose big-endian UTF-16 encoding the bytes are. -/
def ofUtf16? (bytes : List UInt8) : Option String :=
  (ofUnits? (units bytes)).map String.ofList

end Text
end TrustPolicy
