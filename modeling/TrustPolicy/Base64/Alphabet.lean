/-!
# The base64 alphabet

The standard alphabet gives each of the 64 six-bit groups one ASCII symbol.
A symbol is read back to its group, and no other byte is a symbol.
-/

namespace TrustPolicy
namespace Base64

/-- A group of six bits. -/
abbrev Sextet := Fin 64

/-- The padding byte `=`. -/
def pad : UInt8 := 61

/-- The symbol of a six-bit group. -/
def symbol (group : Sextet) : UInt8 :=
  let value := group.val
  UInt8.ofNat <|
    if value < 26 then 65 + value
    else if value < 52 then 71 + value
    else if value < 62 then value - 4
    else if value = 62 then 43
    else 47

/-- The six-bit group of a symbol, if the byte is one. -/
def group? (byte : UInt8) : Option Sextet :=
  let code := byte.toNat
  if upper : 65 ≤ code ∧ code ≤ 90 then some ⟨code - 65, by omega⟩
  else if lower : 97 ≤ code ∧ code ≤ 122 then some ⟨code - 71, by omega⟩
  else if digit : 48 ≤ code ∧ code ≤ 57 then some ⟨code + 4, by omega⟩
  else if code = 43 then some 62
  else if code = 47 then some 63
  else none

@[simp] theorem group?_symbol (group : Sextet) :
    group? (symbol group) = some group := by
  revert group
  decide

@[simp] theorem group?_pad : group? pad = none := by
  decide

end Base64
end TrustPolicy
