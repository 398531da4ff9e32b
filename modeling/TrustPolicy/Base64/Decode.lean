import TrustPolicy.Base64.Groups

/-!
# Base64 text

`encode` writes bytes as symbols padded to a multiple of four. `decode` reads
exactly such texts: each symbol in the alphabet, the padding complete, and the
unused bits of the last symbol zero. Every other text has one reported cause.
-/

namespace TrustPolicy
namespace Base64

/-- Why a text is not the base64 form of any byte string. -/
inductive DecodeError
  | invalidByte (byte : UInt8) (offset : Nat)
  | invalidLength (length : Nat)
  | invalidPadding
  | invalidLastSymbol (byte : UInt8) (offset : Nat)
  deriving DecidableEq

/-- The sentence that reports a cause. -/
def DecodeError.message : DecodeError → String
  | .invalidByte byte offset => s!"Invalid symbol {byte.toNat}, offset {offset}."
  | .invalidLength length => s!"Invalid input length: {length}"
  | .invalidPadding => "Invalid padding"
  | .invalidLastSymbol byte offset => s!"Invalid last symbol {byte.toNat}, offset {offset}."

/-- Bytes as padded base64 symbols. -/
def encodeSymbols (bytes : List UInt8) : List UInt8 :=
  let written := (groups bytes).map symbol
  written ++ List.replicate ((4 - written.length % 4) % 4) pad

/-- Bytes as a padded base64 text. -/
def encode (bytes : List UInt8) : String :=
  String.ofList ((encodeSymbols bytes).map fun byte => Char.ofNat byte.toNat)

/-- The number of bytes before the last block of one to four bytes. -/
def bodyLength (length : Nat) : Nat :=
  if length % 4 = 0 then length - 4 else length - length % 4

/-- The groups of a run of symbols that starts at an offset. -/
def readBody (offset : Nat) : List UInt8 → Except DecodeError (List Sextet)
  | [] => .ok []
  | byte :: rest =>
      match group? byte with
      | none => .error (.invalidByte byte offset)
      | some group =>
          match readBody (offset + 1) rest with
          | .error cause => .error cause
          | .ok others => .ok (group :: others)

/-- The last block: its groups and the number of padding bytes after them.
Padding starts at the third byte of the block at the earliest and goes on to
its end. -/
def readLast (start position : Nat) : List UInt8 → Except DecodeError (List Sextet × Nat)
  | [] => .ok ([], 0)
  | byte :: rest =>
      if byte = pad then
        if 2 ≤ position ∧ rest.all (· == pad) then .ok ([], rest.length + 1)
        else .error (.invalidByte pad (start + position))
      else
        match group? byte with
        | none => .error (.invalidByte byte (start + position))
        | some group =>
            match readLast start (position + 1) rest with
            | .error cause => .error cause
            | .ok (others, padding) => .ok (group :: others, padding)

/-- A lone byte after the last full block that is neither symbol nor padding is
reported before anything else. -/
def checkLoneByte (input : List UInt8) : Except DecodeError Unit :=
  match input.getLast? with
  | none => .ok ()
  | some byte =>
      if input.length % 4 = 1 ∧ byte ≠ pad ∧ group? byte = none then
        .error (.invalidByte byte (input.length - 1))
      else .ok ()

/-- The checks on a last block: at least two symbols, padding up to a multiple
of four, and no unused bits set. -/
def checkLast
    (input : List UInt8)
    (start padding : Nat)
    (last : List Sextet) : Except DecodeError Unit :=
  if input ≠ [] ∧ last.length < 2 then .error (.invalidLength (start + last.length))
  else if (last.length + padding) % 4 ≠ 0 then .error .invalidPadding
  else
    match last.getLast? with
    | some group =>
        if unusedBits last ≠ 0 then
          .error (.invalidLastSymbol (symbol group) (start + last.length - 1))
        else .ok ()
    | none => .ok ()

/-- The bytes whose base64 form the input is, or the first cause in the order
lone byte, body, last block, length, padding, unused bits. -/
def decode (input : List UInt8) : Except DecodeError (List UInt8) := do
  let start := bodyLength input.length
  checkLoneByte input
  let body ← readBody 0 (input.take start)
  let (last, padding) ← readLast start 0 (input.drop start)
  checkLast input start padding last
  return ungroup (body ++ last)

end Base64
end TrustPolicy
