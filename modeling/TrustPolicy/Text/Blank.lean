/-!
# Blank characters

The characters with the Unicode property `White_Space`, and the removal of
blank characters from both ends of a text.
-/

namespace TrustPolicy
namespace Text

/-- Whether a character has the Unicode property `White_Space`. -/
def isBlank (character : Char) : Bool :=
  let code := character.toNat
  (9 ≤ code && code ≤ 13) || code == 0x20 || code == 0x85 || code == 0xA0 ||
    code == 0x1680 || (0x2000 ≤ code && code ≤ 0x200A) || code == 0x2028 ||
    code == 0x2029 || code == 0x202F || code == 0x205F || code == 0x3000

/-- The characters that remain after the blank ones at the end are dropped. -/
def trimEnd (characters : List Char) : List Char :=
  (characters.reverse.dropWhile isBlank).reverse

/-- The text without the blank characters at its two ends. -/
def trim (text : String) : String :=
  String.ofList (trimEnd (text.toList.dropWhile isBlank))

@[simp] theorem toList_trim (text : String) :
    (trim text).toList = trimEnd (text.toList.dropWhile isBlank) := by
  simp [trim]

end Text
end TrustPolicy
