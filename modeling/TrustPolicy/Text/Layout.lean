/-!
# Layout of descriptions

Descriptions are one-line texts of nested values: records with named fields,
wrapped values, optional values, and bracketed listings. The functions here
write the punctuation; the domain modules choose names and fields.
-/

namespace TrustPolicy
namespace Text

/-- Texts written one after another with a comma and a space in between. -/
def commaSeparated (texts : List String) : String :=
  String.intercalate ", " texts

/-- A record with its name and at least one named field. -/
def record
    (name : String)
    (fields : List (String × String)) : String :=
  name ++ " \x7b " ++
    commaSeparated (fields.map fun field => field.1 ++ ": " ++ field.2) ++ " \x7d"

/-- A value wrapped in parentheses under a name. -/
def wrapped (name value : String) : String :=
  name ++ "(" ++ value ++ ")"

/-- An optional value: `None`, or the value wrapped under `Some`. -/
def optional : Option String → String
  | none => "None"
  | some value => wrapped "Some" value

/-- A listing in square brackets. -/
def listing (values : List String) : String :=
  "[" ++ commaSeparated values ++ "]"

/-- A listing in braces. -/
def collection (values : List String) : String :=
  "\x7b" ++ commaSeparated values ++ "\x7d"

/-- A truth value as a word. -/
def truth : Bool → String
  | true => "true"
  | false => "false"

end Text
end TrustPolicy
