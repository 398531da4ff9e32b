import TrustPolicy.Der.Primitive
import TrustPolicy.Text.Utf
import TrustPolicy.X509.ObjectId

/-!
# Distinguished names

A name is a sequence of relative names, and a relative name is a set of at
least one attribute. Reading stops without failure at the first part that is no
relative name or no attribute. The text of a name joins its attributes.
-/

namespace TrustPolicy
namespace X509

open Der (Reader)

/-- A value with its type and the tag number of its encoding. -/
structure Attribute where
  type : List UInt8
  tag : Nat
  value : List UInt8
  deriving DecidableEq

/-- Relative names, each with its attributes. -/
abbrev Name := List (List Attribute)

/-- Read an attribute. -/
def Attribute.read : Reader Attribute :=
  Der.tagged 16 <| Der.within do
    let type ← Der.objectId
    let value ← Der.element
    pure ⟨type, value.tag, value.content⟩

/-- Read a relative name, which has at least one attribute. -/
def readRelativeName : Reader (List Attribute) :=
  Der.tagged 17 <| Der.within do
    let attributes ← Der.many Attribute.read
    if attributes.isEmpty then failure else pure attributes

/-- Read a name. -/
def Name.read : Reader Name :=
  Der.tagged 16 (Der.within (Der.many readRelativeName))

/-- The tag numbers of the character strings that are read as UTF-8. -/
def utf8Tags : List Nat := [7, 12, 18, 19, 20, 21, 22, 25, 26, 27]

/-- The value of an attribute as text: decoded for character strings, and
hexadecimal digits for anything else. -/
def Attribute.valueText? (entry : Attribute) : Option String :=
  if utf8Tags.contains entry.tag then Text.ofUtf8? entry.value
  else if entry.tag = 30 then Text.ofUtf16? entry.value
  else some (Hex.upper entry.value)

/-- An attribute as text. -/
def Attribute.text? (entry : Attribute) : Option String :=
  entry.valueText?.map fun value => typeText entry.type ++ "=" ++ value

/-- A relative name as text. -/
def relativeText? (attributes : List Attribute) : Option String :=
  (attributes.mapM Attribute.text?).map (String.intercalate " + ")

/-- A name as text, unless a character string in it is no valid encoding. -/
def Name.text? (name : Name) : Option String :=
  (name.mapM relativeText?).map (String.intercalate ", ")

/-- A name as it is shown, with a fixed text for one that cannot be decoded. -/
def Name.text (name : Name) : String :=
  name.text?.getD "<X509Error: Invalid X.509 name>"

end X509
end TrustPolicy
