/-!
# SHA-256

The digest of a byte string: the message is padded to blocks of 64 bytes, and
each block is compressed into a state of eight words.
-/

namespace TrustPolicy
namespace Sha256

/-- A word rotated to the right. -/
def rotateRight (word amount : UInt32) : UInt32 :=
  (word >>> amount) ||| (word <<< (32 - amount))

/-- The constants of the 64 rounds. -/
def roundConstants : List UInt32 :=
  [0x428a2f98, 0x71374491, 0xb5c0fbcf, 0xe9b5dba5, 0x3956c25b, 0x59f111f1, 0x923f82a4, 0xab1c5ed5,
   0xd807aa98, 0x12835b01, 0x243185be, 0x550c7dc3, 0x72be5d74, 0x80deb1fe, 0x9bdc06a7, 0xc19bf174,
   0xe49b69c1, 0xefbe4786, 0x0fc19dc6, 0x240ca1cc, 0x2de92c6f, 0x4a7484aa, 0x5cb0a9dc, 0x76f988da,
   0x983e5152, 0xa831c66d, 0xb00327c8, 0xbf597fc7, 0xc6e00bf3, 0xd5a79147, 0x06ca6351, 0x14292967,
   0x27b70a85, 0x2e1b2138, 0x4d2c6dfc, 0x53380d13, 0x650a7354, 0x766a0abb, 0x81c2c92e, 0x92722c85,
   0xa2bfe8a1, 0xa81a664b, 0xc24b8b70, 0xc76c51a3, 0xd192e819, 0xd6990624, 0xf40e3585, 0x106aa070,
   0x19a4c116, 0x1e376c08, 0x2748774c, 0x34b0bcb5, 0x391c0cb3, 0x4ed8aa4a, 0x5b9cca4f, 0x682e6ff3,
   0x748f82ee, 0x78a5636f, 0x84c87814, 0x8cc70208, 0x90befffa, 0xa4506ceb, 0xbef9a3f7, 0xc67178f2]

/-- The eight words that are carried from block to block. -/
structure State where
  a : UInt32
  b : UInt32
  c : UInt32
  d : UInt32
  e : UInt32
  f : UInt32
  g : UInt32
  h : UInt32
  deriving DecidableEq

/-- The state before the first block. -/
def State.initial : State :=
  ⟨0x6a09e667, 0xbb67ae85, 0x3c6ef372, 0xa54ff53a, 0x510e527f, 0x9b05688c, 0x1f83d9ab, 0x5be0cd19⟩

/-- The eight words in order. -/
def State.words (state : State) : List UInt32 :=
  [state.a, state.b, state.c, state.d, state.e, state.f, state.g, state.h]

/-- One round with its constant and its word of the message schedule. -/
def State.round
    (state : State)
    (constant word : UInt32) : State :=
  let { a, b, c, d, e, f, g, h } := state
  let mixedE := rotateRight e 6 ^^^ rotateRight e 11 ^^^ rotateRight e 25
  let choice := (e &&& f) ^^^ (~~~e &&& g)
  let first := h + mixedE + choice + constant + word
  let mixedA := rotateRight a 2 ^^^ rotateRight a 13 ^^^ rotateRight a 22
  let majority := (a &&& b) ^^^ (a &&& c) ^^^ (b &&& c)
  ⟨first + mixedA + majority, a, b, c, d + first, e, f, g⟩

/-- Two states added word by word. -/
def State.add (first second : State) : State :=
  ⟨first.a + second.a, first.b + second.b, first.c + second.c, first.d + second.d,
    first.e + second.e, first.f + second.f, first.g + second.g, first.h + second.h⟩

/-- The next word of a message schedule whose words so far are given latest first. -/
def nextWord (latestFirst : List UInt32) : UInt32 :=
  let two := latestFirst.getD 1 0
  let seven := latestFirst.getD 6 0
  let fifteen := latestFirst.getD 14 0
  let sixteen := latestFirst.getD 15 0
  let mixedTwo := rotateRight two 17 ^^^ rotateRight two 19 ^^^ (two >>> 10)
  let mixedFifteen := rotateRight fifteen 7 ^^^ rotateRight fifteen 18 ^^^ (fifteen >>> 3)
  mixedTwo + seven + mixedFifteen + sixteen

/-- A message schedule, latest word first, extended by a number of words. -/
def extend : Nat → List UInt32 → List UInt32
  | 0, latestFirst => latestFirst
  | count + 1, latestFirst => extend count (nextWord latestFirst :: latestFirst)

/-- Bytes as words, the most significant byte of each word first. -/
def words : List UInt8 → List UInt32
  | first :: second :: third :: fourth :: rest =>
      ((first.toUInt32 <<< 24) ||| (second.toUInt32 <<< 16) ||| (third.toUInt32 <<< 8) |||
        fourth.toUInt32) :: words rest
  | _ => []

/-- The 64 words of the message schedule of a block. -/
def schedule (block : List UInt8) : List UInt32 :=
  (extend 48 (words block).reverse).reverse

/-- The state after a block. -/
def State.compress
    (state : State)
    (block : List UInt8) : State :=
  let mixed := (roundConstants.zip (schedule block)).foldl
    (fun current input => current.round input.1 input.2) state
  state.add mixed

/-- The state after a number of blocks from the front of a message. -/
def State.absorb : Nat → List UInt8 → State → State
  | 0, _, state => state
  | blocks + 1, message, state =>
      absorb blocks (message.drop 64) (state.compress (message.take 64))

/-- A number as bytes, the most significant first. -/
def bigEndian (width value : Nat) : List UInt8 :=
  (List.range width).map fun position => UInt8.ofNat (value >>> (8 * (width - 1 - position)))

/-- The message, a one bit, zeros, and the length in bits, in full blocks. -/
def padded (message : List UInt8) : List UInt8 :=
  let zeros := (119 - message.length % 64) % 64
  message ++ [0x80] ++ List.replicate zeros 0 ++ bigEndian 8 (8 * message.length)

/-- The 32 bytes of the digest of a message. -/
def digest (message : List UInt8) : List UInt8 :=
  let blocks := padded message
  let final := State.absorb (blocks.length / 64) blocks State.initial
  final.words.flatMap fun word => bigEndian 4 word.toNat

end Sha256
end TrustPolicy
