import TrustPolicy.Der.Element

/-!
# Times of validity

A time is written with a year of two digits (UTC time) or of four digits
(generalized time). It must be a real date of the calendar and a real time of
day. The two times of a certificate are not compared with each other.
-/

namespace TrustPolicy
namespace X509

open Der (Reader)

/-- Two decimal digits. -/
def twoDigits : Reader Nat := do
  let high ← Der.byte
  let low ← Der.byte
  if 48 ≤ high ∧ high ≤ 57 ∧ 48 ≤ low ∧ low ≤ 57 then
    pure ((high.toNat - 48) * 10 + (low.toNat - 48))
  else failure

/-- Two decimal digits of a number up to a bound. -/
def twoDigitsUpTo (bound : Nat) : Reader Nat := do
  let value ← twoDigits
  if value ≤ bound then pure value else failure

/-- The next byte, which must be the one given. -/
def exactly (expected : UInt8) : Reader Unit := do
  if (← Der.byte) = expected then pure () else failure

/-- Whether a year has a leap day. -/
def isLeapYear (year : Nat) : Bool :=
  year % 4 == 0 && (year % 100 != 0 || year % 400 == 0)

/-- The number of days in a month, none for a number that is no month. -/
def daysInMonth (year month : Nat) : Nat :=
  match month with
  | 2 => if isLeapYear year then 29 else 28
  | 4 | 6 | 9 | 11 => 30
  | 1 | 3 | 5 | 7 | 8 | 10 | 12 => 31
  | _ => 0

/-- Month, day, hour and minute within a year. -/
def dayAndMinute (year : Nat) : Reader Unit := do
  let month ← twoDigits
  let day ← twoDigits
  let _ ← twoDigitsUpTo 23
  let _ ← twoDigitsUpTo 59
  if 1 ≤ day ∧ day ≤ daysInMonth year month then pure () else failure

/-- Seconds, which are present if at least two more bytes are. -/
def optionalSeconds : Reader Unit := do
  if 2 ≤ (← get).length then
    let _ ← twoDigitsUpTo 59
    pure ()
  else pure ()

/-- Hours and minutes of an offset from UTC. -/
def offset : Reader Unit := do
  let _ ← twoDigitsUpTo 25
  let _ ← twoDigitsUpTo 59
  pure ()

/-- A time zone: `Z`, or a sign and an offset. -/
def zone : Reader Unit := do
  let first ← Der.byte
  if first = 0x5A then pure ()
  else if first = 0x2B ∨ first = 0x2D then offset
  else failure

/-- A fraction of a second: nothing, or a point and at most three digits. -/
def optionalFraction : Reader Unit := fun input =>
  match input with
  | 0x2E :: rest =>
      let digits := rest.takeWhile fun byte => 48 ≤ byte && byte ≤ 57
      if digits.length ≤ 3 then some ((), rest.drop digits.length) else none
  | _ => some ((), input)

/-- A time with a year of two digits, of which those below 50 are after 2000. -/
def utcTime : Reader Unit := do
  let year ← twoDigits
  dayAndMinute (if year < 50 then 2000 + year else 1900 + year)
  optionalSeconds
  zone

/-- A time with a year of four digits, which is in UTC. -/
def generalizedTime : Reader Unit := do
  let century ← twoDigits
  let year ← twoDigits
  dayAndMinute (century * 100 + year)
  optionalSeconds
  optionalFraction
  exactly 0x5A

/-- An element that holds a time. -/
def time : Reader Unit := do
  let found ← Der.element
  if found.tag = 23 then StateT.lift (Der.allOf utcTime found.content)
  else if found.tag = 24 then StateT.lift (Der.allOf generalizedTime found.content)
  else failure

end X509
end TrustPolicy
