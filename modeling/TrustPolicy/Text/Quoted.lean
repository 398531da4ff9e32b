import TrustPolicy.Text.Visible

/-!
# Quoted text

A quoted text stands between double quotes. Quotes, backslashes, line breaks,
tabs and the null character have short escapes; every other character that is
not visible by itself is written as its code in braces.
-/

namespace TrustPolicy
namespace Text

/-- The code of a character in lower-case hexadecimal digits between braces. -/
def escapeCode (character : Char) : List Char :=
  ['\\', 'u', '\x7b'] ++ Nat.toDigits 16 character.toNat ++ ['\x7d']

/-- One character inside quotes. -/
def quoteCharacter (character : Char) : List Char :=
  if character = '\x00' then ['\\', '0']
  else if character = '\t' then ['\\', 't']
  else if character = '\n' then ['\\', 'n']
  else if character = '\r' then ['\\', 'r']
  else if character = '"' then ['\\', '"']
  else if character = '\\' then ['\\', '\\']
  else if isVisible character then [character]
  else escapeCode character

/-- A text between double quotes. -/
def quote (text : String) : String :=
  "\"" ++ String.ofList (text.toList.flatMap quoteCharacter) ++ "\""

end Text
end TrustPolicy
