import TrustPolicy.Event
import TrustPolicy.Policy

/-!
# Answers

What a step of a session answers. An answer shows values and labels; it never
shows handles, so objects are compared by steps that ask for it.
-/

namespace TrustPolicy

/-- A reference as it is listed: the label of its source, and its flag. -/
structure RefListing where
  label : String
  overridesPins : Bool
  deriving DecidableEq

/-- The values that one builder sets. -/
structure LevelListing where
  cleartextPermitted : Option Bool
  hstsEnforced : Option Bool
  pinSet : Option PinSet
  entryRefs : Option (List RefListing)
  hasEntryRefs : Bool

/-- The values that a builder resolves to, each by itself or with its own error. -/
structure EffectiveListing where
  cleartextPermitted : Except PolicyError Bool
  hstsEnforced : Except PolicyError Bool
  pins : Except PolicyError PinSet
  entryRefs : Except PolicyError (List RefListing)

/-- The settings of a policy, and whether its anchors are cached. -/
structure PolicyListing where
  cleartextPermitted : Bool
  hstsEnforced : Bool
  pins : PinSet
  entryRefs : List RefListing
  cached : Bool

/-- The size of a memory store, and its description. -/
structure MemoryListing where
  size : Nat
  isEmpty : Bool
  description : String

/-- What a step answers. -/
inductive Answer
  /-- The step was carried out and has nothing to show. -/
  | done
  /-- There is no such thing. -/
  | nothing
  | refused (error : PolicyError)
  /-- A name that the step uses is not bound. -/
  | unbound (name : String)
  /-- A name is bound to an object that the step does not apply to. -/
  | unsuitable (name : String)
  /-- A change was broken off before it could be stored. -/
  | brokenOff
  | truth (value : Bool)
  | count (value : Nat)
  | text (value : String)
  | certificate (certificate : Certificate)
  | comparison (equal sameHash : Bool)
  | certificates (certificates : List Certificate)
  | anchors (anchors : List Anchor)
  | source (label : String) (certificates : List Certificate) (memory : Option MemoryListing)
  | queryCounts (queries announcements : Nat)
  | seen (values : List Bool)
  | refAnchors (description : String) (anchors : List Anchor)
  | builder (level : LevelListing) (effective : EffectiveListing) (description : String)
  | level (level : LevelListing)
  | effective (effective : EffectiveListing)
  | size (count : Nat) (isEmpty : Bool)
  | policy (listing : PolicyListing)
  /-- Whether several callers were given the same object. -/
  | agreement (allSame : Bool)
  /-- The requests to a factory, with a name for each living policy they were for. -/
  | factory (requests : Nat) (bound : List (Option String))
  | boundManager (isAlive : Bool) (policy : Option String)
      (issuers : Except PolicyError (List Certificate))
  | registrations (registered live : Nat)
  | cell (value : Option String) (isPopulated : Bool) (description : String)
  /-- The value of a cell, with what was seen of the cell by an initializer that ran. -/
  | initialized (value : String) (during : Option String)
  /-- The failure of an initializer, with what it saw of the cell. -/
  | notInitialized (failure : String) (during : Option String)
  | recorded (contains : Bool) (overridesPins : Option Bool)
  | anchorSet (set : AnchorSet)
  | events (events : List Event)

end TrustPolicy
