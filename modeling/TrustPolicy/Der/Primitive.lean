import TrustPolicy.Der.Element

/-!
# Primitive values

Object identifiers, bit strings, and small numbers inside elements.
-/

namespace TrustPolicy
namespace Der

/-- An object identifier: the content of a primitive element. -/
def objectId : Reader (List UInt8) := do
  let found ← element
  if found.identifier.constructed then failure else pure found.content

/-- The number of zero bits at the low end of a byte. -/
def trailingZeros (byte : UInt8) : Nat :=
  ((List.range 8).takeWhile fun position => !byte.toNat.testBit position).length

/-- Whether content is a bit string: a count of unused bits, and bits of which
the unused ones at the end are zero. -/
def isBitString : List UInt8 → Bool
  | [] => false
  | [unused] => unused == 0
  | unused :: first :: rest =>
      decide (unused.toNat ≤ trailingZeros ((first :: rest).getLast (List.cons_ne_nil first rest)))

/-- A primitive bit string. -/
def bitString : Reader Unit := do
  let found ← element
  if found.tag = 3 ∧ found.identifier.constructed = false ∧ isBitString found.content then pure ()
  else failure

/-- Whether content is a number that is not negative, below `2 ^ 32`, and
written in as few bytes as possible. -/
def isSmallNatural : List UInt8 → Bool
  | [] => false
  | [only] => only < 0x80
  | first :: second :: rest =>
      first < 0x80 && (first != 0 || second ≥ 0x80) &&
        decide (bigEndianValue (first :: second :: rest) < UInt32.size)

/-- A primitive number that is not negative and below `2 ^ 32`. -/
def smallNatural : Reader Unit := do
  let found ← element
  if found.tag = 2 ∧ found.identifier.constructed = false ∧ isSmallNatural found.content then
    pure ()
  else failure

end Der
end TrustPolicy
