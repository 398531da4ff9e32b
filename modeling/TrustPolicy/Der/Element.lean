/-!
# Encoded elements

An element is an identifier, a length, and as many content bytes. Readers take
what they need from the front of their input and hand on the rest; an element
of definite length is delimited by itself, so what follows it cannot matter.
-/

namespace TrustPolicy
namespace Der

/-- A reader takes a value from the front of its input, or fails. -/
abbrev Reader := StateT (List UInt8) Option

/-- The class of an identifier. -/
inductive TagClass
  | universal
  | application
  | context
  | privateUse
  deriving DecidableEq

/-- The class that the two high bits of an identifier byte name. -/
def TagClass.ofByte (byte : UInt8) : TagClass :=
  if byte < 0x40 then .universal
  else if byte < 0x80 then .application
  else if byte < 0xC0 then .context
  else .privateUse

/-- What an element says about its content. -/
structure Identifier where
  tagClass : TagClass
  /-- Whether the content is made of elements. -/
  constructed : Bool
  tag : Nat
  deriving DecidableEq

/-- An element of definite length. -/
structure Element where
  identifier : Identifier
  content : List UInt8
  deriving DecidableEq

/-- The tag number of an element. -/
def Element.tag (element : Element) : Nat :=
  element.identifier.tag

/-- The length field of an element. -/
inductive Length
  | definite (length : Nat)
  | indefinite
  deriving DecidableEq

/-- The next byte. -/
def byte : Reader UInt8
  | [] => none
  | first :: rest => some (first, rest)

/-- A number of bytes. -/
def take (count : Nat) : Reader (List UInt8) := fun input =>
  if count ≤ input.length then some (input.splitAt count) else none

/-- The value of bytes, the most significant first. -/
def bigEndianValue (bytes : List UInt8) : Nat :=
  bytes.foldl (fun value byte => value * 256 + byte.toNat) 0

/-- The tag number that follows the identifier byte in base-128 digits, of which
there are at most as many as given. The number is kept modulo `2 ^ 32`. -/
def longTag : Nat → Nat → Reader Nat
  | 0, _ => failure
  | remaining + 1, high => do
      let digit ← byte
      let tag := (high * 128 + digit.toNat % 128) % UInt32.size
      if digit < 0x80 then pure tag else longTag remaining tag

/-- An identifier. The low five bits are the tag number, or all ones if the tag
number follows in up to five bytes. -/
def identifier : Reader Identifier := do
  let first ← byte
  let low := first.toNat % 32
  let tag ← if low = 31 then longTag 5 0 else pure low
  pure ⟨TagClass.ofByte first, first &&& 0x20 != 0, tag⟩

/-- A length field. The long form need not be minimal but must fit 64 bits. -/
def length : Reader Length := do
  let first ← byte
  if first < 0x80 then pure (.definite first.toNat)
  else if first = 0x80 then pure .indefinite
  else if first = 0xFF then failure
  else do
    let octets ← take (first.toNat - 128)
    let value := bigEndianValue octets
    if value < UInt64.size then pure (.definite value) else failure

/-- An identifier and a definite length. -/
def header : Reader (Identifier × Nat) := do
  let identifier ← identifier
  match ← length with
  | .definite length => pure (identifier, length)
  | .indefinite => failure

/-- An element of definite length. -/
def element : Reader Element := do
  let (identifier, length) ← header
  let content ← take length
  pure ⟨identifier, content⟩

/-- The identifier of the next element, which stays in the input whether or not
its content is complete; nothing if no identifier and length can be read. -/
def nextIdentifier : Reader (Option Identifier) := fun input =>
  some ((header input).map fun found => found.1.1, input)

/-- The next element, which stays in the input; nothing at the end of the input. -/
def nextElement : Reader (Option Element) := fun input =>
  if input.isEmpty then some (none, input)
  else (element input).map fun (next, _) => (some next, input)

/-- What a reader finds in some content, whatever it leaves over. -/
def within
    (reader : Reader α)
    (content : List UInt8) : Option α :=
  (reader content).map Prod.fst

/-- What a reader finds in some content that it uses up. -/
def allOf
    (reader : Reader α)
    (content : List UInt8) : Option α :=
  match reader content with
  | some (value, []) => some value
  | _ => none

/-- An element with a tag number, whose content satisfies a partial function. -/
def tagged
    (tag : Nat)
    (inside : List UInt8 → Option α) : Reader α := do
  let found ← element
  if found.tag = tag then StateT.lift (inside found.content) else failure

/-- Read values until the reader fails, at most as many times as given. -/
def repeatedly (reader : Reader α) : Nat → Reader (List α)
  | 0 => pure []
  | bound + 1 => fun input =>
      match reader input with
      | none => some ([], input)
      | some (value, rest) =>
          (repeatedly reader bound rest).map fun (values, final) => (value :: values, final)

/-- As many values as there are up to the first failure of the reader, which
takes at least one byte for each. -/
def many (reader : Reader α) : Reader (List α) := fun input =>
  repeatedly reader input.length input

end Der
end TrustPolicy
