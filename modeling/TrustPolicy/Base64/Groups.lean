import TrustPolicy.Base64.Alphabet

/-!
# Bytes in groups of six bits

Three bytes are four groups. One or two bytes at the end fill two or three
groups, whose last one has unused low bits.
-/

namespace TrustPolicy
namespace Base64

/-- The group with the low six bits of a number. -/
def sextet (value : Nat) : Sextet :=
  ⟨value % 64, Nat.mod_lt _ (by decide)⟩

/-- Bytes as groups, the unused bits of a last partial group being zero. -/
def groups : List UInt8 → List Sextet
  | [] => []
  | [first] => [sextet (first.toNat / 4), sextet (first.toNat * 16)]
  | [first, second] =>
      [sextet (first.toNat / 4), sextet (first.toNat * 16 + second.toNat / 16),
        sextet (second.toNat * 4)]
  | first :: second :: third :: rest =>
      sextet (first.toNat / 4) :: sextet (first.toNat * 16 + second.toNat / 16) ::
        sextet (second.toNat * 4 + third.toNat / 64) :: sextet third.toNat ::
        groups rest

/-- The bytes that groups hold; the unused bits of a last partial group are dropped. -/
def ungroup : List Sextet → List UInt8
  | first :: second :: third :: fourth :: rest =>
      UInt8.ofNat (first.val * 4 + second.val / 16) ::
        UInt8.ofNat (second.val * 16 + third.val / 4) ::
        UInt8.ofNat (third.val * 64 + fourth.val) :: ungroup rest
  | [first, second, third] =>
      [UInt8.ofNat (first.val * 4 + second.val / 16),
        UInt8.ofNat (second.val * 16 + third.val / 4)]
  | [first, second] => [UInt8.ofNat (first.val * 4 + second.val / 16)]
  | _ => []

/-- The unused low bits of a last partial group, as a number. -/
def unusedBits : List Sextet → Nat
  | _ :: _ :: _ :: _ :: rest => unusedBits rest
  | [_, _, third] => third.val % 4
  | [_, second] => second.val % 16
  | _ => 0

end Base64
end TrustPolicy
