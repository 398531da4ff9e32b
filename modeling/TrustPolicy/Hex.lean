/-!
# Hexadecimal text

Byte strings written with two hexadecimal digits for each byte, and read back.
-/

namespace TrustPolicy
namespace Hex

/-- The lower-case digit of a value below sixteen. -/
def lowerDigit (value : Nat) : Char :=
  if value < 10 then Char.ofNat (48 + value) else Char.ofNat (87 + value)

/-- The upper-case digit of a value below sixteen. -/
def upperDigit (value : Nat) : Char :=
  if value < 10 then Char.ofNat (48 + value) else Char.ofNat (55 + value)

/-- The two digits of a byte, the high one first. -/
def digits
    (digit : Nat → Char)
    (byte : UInt8) : List Char :=
  [digit (byte.toNat / 16), digit (byte.toNat % 16)]

/-- Bytes in lower-case digits. -/
def lower (bytes : List UInt8) : String :=
  String.ofList (bytes.flatMap (digits lowerDigit))

/-- Bytes in upper-case digits. -/
def upper (bytes : List UInt8) : String :=
  String.ofList (bytes.flatMap (digits upperDigit))

/-- The value of a lower-case or upper-case digit. -/
def digitValue? (character : Char) : Option Nat :=
  let code := character.toNat
  if 48 ≤ code ∧ code ≤ 57 then some (code - 48)
  else if 97 ≤ code ∧ code ≤ 102 then some (code - 87)
  else if 65 ≤ code ∧ code ≤ 70 then some (code - 55)
  else none

/-- The bytes that pairs of digits stand for. -/
def ofDigits? : List Char → Option (List UInt8)
  | [] => some []
  | [_] => none
  | high :: low :: rest => do
      let highValue ← digitValue? high
      let lowValue ← digitValue? low
      let bytes ← ofDigits? rest
      some (UInt8.ofNat (16 * highValue + lowValue) :: bytes)

/-- The bytes that a text of digit pairs stands for. -/
def decode? (text : String) : Option (List UInt8) :=
  ofDigits? text.toList

end Hex
end TrustPolicy
