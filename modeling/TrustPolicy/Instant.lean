/-!
# Instants

An instant is a whole number of seconds since the epoch, rounded down, and the
nanoseconds within that second. Instants before the epoch have negative seconds.
-/

namespace TrustPolicy

/-- A point in time with nanosecond resolution. -/
structure Instant where
  /-- Seconds since the epoch, rounded down. -/
  seconds : Int
  /-- Nanoseconds after that second. -/
  nanoseconds : Fin 1000000000
  deriving DecidableEq

namespace Instant

/-- The nanoseconds since the epoch. -/
def sinceEpoch (instant : Instant) : Int :=
  instant.seconds * 1000000000 + instant.nanoseconds.val

instance : LE Instant where
  le first second :=
    first.seconds < second.seconds ∨
      first.seconds = second.seconds ∧ first.nanoseconds ≤ second.nanoseconds

theorem le_def
    {first second : Instant} :
    first ≤ second ↔
      first.seconds < second.seconds ∨
        first.seconds = second.seconds ∧ first.nanoseconds ≤ second.nanoseconds := Iff.rfl

instance (first second : Instant) : Decidable (first ≤ second) :=
  decidable_of_iff _ le_def.symm

/-- Instants are ordered as their distances from the epoch. -/
theorem le_iff_sinceEpoch_le
    {first second : Instant} :
    first ≤ second ↔ first.sinceEpoch ≤ second.sinceEpoch := by
  have firstBound := first.nanoseconds.isLt
  have secondBound := second.nanoseconds.isLt
  simp only [le_def, sinceEpoch, Fin.le_def]
  omega

end Instant
end TrustPolicy
