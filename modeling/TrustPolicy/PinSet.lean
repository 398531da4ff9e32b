import TrustPolicy.Instant
import TrustPolicy.Pin

/-!
# Pin sets

A pin set holds each of its pins once, in ascending order, and may expire. Two
lists of pins with the same members give the same set.
-/

namespace TrustPolicy

/-- Insert a pin into an ascending list at its place, unless it is there. -/
def Pin.insertInto (pin : Pin) : List Pin → List Pin
  | [] => [pin]
  | head :: rest =>
      if pin < head then pin :: head :: rest
      else if pin = head then head :: rest
      else head :: pin.insertInto rest

@[simp] theorem Pin.mem_insertInto
    {pin member : Pin}
    {pins : List Pin} :
    member ∈ pin.insertInto pins ↔ member = pin ∨ member ∈ pins := by
  induction pins with
  | nil => simp [insertInto]
  | cons head rest inductionHypothesis =>
      simp only [insertInto]
      split
      · simp
      · split
        · simp_all
        · simp only [List.mem_cons, inductionHypothesis]
          constructor
          · rintro (rfl | rfl | inRest) <;> simp_all
          · rintro (rfl | rfl | inRest) <;> simp_all

/-- Insertion keeps an ascending list ascending. -/
theorem Pin.pairwise_insertInto
    {pin : Pin}
    {pins : List Pin}
    (ascending : pins.Pairwise (· < ·)) :
    (pin.insertInto pins).Pairwise (· < ·) := by
  induction pins with
  | nil => simp [insertInto]
  | cons head rest inductionHypothesis =>
      obtain ⟨headBefore, restAscending⟩ := List.pairwise_cons.1 ascending
      simp only [insertInto]
      split
      case isTrue before =>
          refine List.pairwise_cons.2 ⟨fun member inList => ?_, ascending⟩
          rcases List.mem_cons.1 inList with rfl | inRest
          · exact before
          · exact Pin.lt_trans before (headBefore member inRest)
      case isFalse notBefore =>
          split
          case isTrue => exact ascending
          case isFalse different =>
              refine List.pairwise_cons.2 ⟨fun member inList => ?_, inductionHypothesis restAscending⟩
              rcases Pin.mem_insertInto.1 inList with rfl | inRest
              · exact Pin.lt_of_not_lt notBefore different
              · exact headBefore member inRest

/-- The distinct members of a list of pins, in ascending order. -/
def Pin.ascending (pins : List Pin) : List Pin :=
  pins.foldr Pin.insertInto []

@[simp] theorem Pin.mem_ascending
    {member : Pin}
    {pins : List Pin} :
    member ∈ Pin.ascending pins ↔ member ∈ pins := by
  induction pins with
  | nil => simp [Pin.ascending]
  | cons head rest inductionHypothesis =>
      simpa [Pin.ascending] using or_congr_right inductionHypothesis

theorem Pin.pairwise_ascending
    (pins : List Pin) :
    (Pin.ascending pins).Pairwise (· < ·) := by
  induction pins with
  | nil => exact List.Pairwise.nil
  | cons head rest inductionHypothesis => exact Pin.pairwise_insertInto inductionHypothesis

/-- A set of pins with an optional expiration. -/
structure PinSet where
  /-- The members in ascending order. -/
  pins : List Pin
  /-- The instant from which on the set is expired. -/
  expiration : Option Instant
  /-- The members are strictly ascending. -/
  pins_ascending : pins.Pairwise (· < ·)
  deriving DecidableEq

namespace PinSet

/-- The pin set without pins, which never expires. -/
def empty : PinSet :=
  ⟨[], none, List.Pairwise.nil⟩

/-- The pin set with the members of a list. -/
def ofList
    (pins : List Pin)
    (expiration : Option Instant) : PinSet :=
  ⟨Pin.ascending pins, expiration, Pin.pairwise_ascending pins⟩

/-- Whether a pin is a member. -/
def contains
    (set : PinSet)
    (pin : Pin) : Bool :=
  set.pins.contains pin

/-- The number of pins. -/
def size (set : PinSet) : Nat :=
  set.pins.length

/-- Whether there are no pins. -/
def isEmpty (set : PinSet) : Bool :=
  set.pins.isEmpty

/-- Whether the expiration has been reached at an instant. -/
def isExpiredAt
    (set : PinSet)
    (now : Instant) : Bool :=
  match set.expiration with
  | none => false
  | some expiration => decide (expiration ≤ now)

/-- The distinct algorithms of the pins, in the order of the pins. -/
def algorithms (set : PinSet) : List DigestAlgorithm :=
  (set.pins.map Pin.algorithm).eraseDups

/-- The pin set with its pins and its expiration. -/
def describe (set : PinSet) : String :=
  Text.record "PinSet"
    [("pins", Text.collection (set.pins.map Pin.describe)),
      ("expiration", Text.optional (set.expiration.map fun instant =>
        Text.record "SystemTime"
          [("tv_sec", toString instant.seconds),
            ("tv_nsec", toString instant.nanoseconds.val)]))]

end PinSet
end TrustPolicy
