import TrustPolicy.Der.Element

/-!
# Indefinite lengths

A constructed element of indefinite length goes on until an end marker: an
element with tag number zero and no content. Elements inside it may be of
indefinite length themselves, up to a bound on the nesting.
-/

namespace TrustPolicy
namespace Der

/-- Read elements up to and including the first end marker, at most as many as given. -/
def untilEnd (isEnd : Reader Bool) : Nat → Reader Unit
  | 0 => failure
  | bound + 1 => do
      if ← isEnd then pure () else untilEnd isEnd bound

/-- Read one element of definite or indefinite length, nested at most so deep,
and tell whether it is an end marker. -/
def skip : Nat → Reader Bool
  | 0 => failure
  | depth + 1 => do
      let found ← identifier
      match ← length with
      | .definite size =>
          if size = 0 ∧ found.tag = 0 then pure true
          else do
            let _ ← take size
            pure false
      | .indefinite =>
          if found.constructed then do
            untilEnd (skip depth) (← get).length
            pure false
          else failure

/-- The nesting that is accepted. -/
def nestingBound : Nat := 50

/-- Read an element of definite or indefinite length and give its tag number. -/
def skipElement : Reader Nat := fun input => do
  let (found, _) ← identifier input
  let (_, rest) ← skip nestingBound input
  some (found.tag, rest)

end Der
end TrustPolicy
