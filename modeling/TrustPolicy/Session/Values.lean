import TrustPolicy.Session.Basic

/-!
# Steps on cells, anchor sets, and the default policy

Cells and anchor sets are values under a name, which no other object shares. The
default policy is made from two sources and put into the slot of the world.
-/

namespace TrustPolicy

/-- A step on cells, anchor sets, or the default policy. -/
inductive ValueStep
  | makeCell (name : String)
  | viewCell (cell : String)
  | invalidateCell (cell : String)
  | initializeCell (cell : String) (outcome : Except String String)
  | makeAnchorSet (name : String) (anchors : List AnchorForm)
  | insertAnchor (set : String) (anchor : AnchorForm)
  | extendAnchorSet (set : String) (anchors : List AnchorForm)
  | findAnchor (set certificate : String)
  | viewAnchorSet (set : String)
  | compareAnchorSets (first second : String)
  | makeDefaultSources (name : String) (given : Option (String × String))
  | defaultBuilder (name sources : String)
  | installDefault (sources policy : String)
  | getDefault (policy : String)

namespace ValueStep

/-- The initializer of a step: it notes the status of the locked cell. -/
def initializer
    (outcome : Except String String)
    (_ : Option CacheCell.Status) : Except String String × Option CacheCell.Status :=
  (outcome, some .locked)

/-- Two empty memory stores as default sources, and the session with them. -/
def makeMemorySources (session : Session) : DefaultSources × Session :=
  let system := session.world.sources.fresh
  let withSystem := session.world.sources.add ⟨"system", .memory .empty⟩
  let user := withSystem.fresh
  let withUser := withSystem.add ⟨"user", .memory .empty⟩
  (⟨system, user⟩,
    { session with world := { session.world with sources := withUser } })

/-- Carry out a step on cells, anchor sets, or the default policy. -/
def run
    (session : Session) : ValueStep → Except Answer (Answer × Session)
  | .makeCell name =>
      .ok (.done, { session with cells := session.cells.assign name CacheCell.empty })
  | .viewCell name => do
      let cell ← Session.look session.cells name
      return (.cell cell.get? cell.isPopulated cell.describe, session)
  | .invalidateCell name => do
      let cell ← Session.look session.cells name
      let (emptied, wasPopulated) := cell.invalidate
      return (.truth wasPopulated, { session with cells := session.cells.assign name emptied })
  | .initializeCell name outcome => do
      let cell ← Session.look session.cells name
      let (result, filled, during) := cell.getOrTryInit (initializer outcome) none
      let next := { session with cells := session.cells.assign name filled }
      let seen := during.map CacheCell.Status.describe
      match result with
      | .ok value => return (.initialized value seen, next)
      | .error failure => return (.notInitialized failure seen, next)
  | .makeAnchorSet name forms => do
      let anchors ← session.resolveAnchors forms
      return (.done,
        { session with anchorSets := session.anchorSets.assign name (AnchorSet.ofList anchors) })
  | .insertAnchor name form => do
      let set ← Session.look session.anchorSets name
      let anchor ← session.resolveAnchor form
      return (.truth (set.isNew anchor),
        { session with anchorSets := session.anchorSets.assign name (set.insert anchor) })
  | .extendAnchorSet name forms => do
      let set ← Session.look session.anchorSets name
      let anchors ← session.resolveAnchors forms
      return (.done,
        { session with anchorSets := session.anchorSets.assign name (set.extend anchors) })
  | .findAnchor name certificate => do
      let set ← Session.look session.anchorSets name
      let certificate ← Session.look session.certificates certificate
      return (.recorded (set.contains certificate)
        ((set.find? certificate).map Anchor.overridesPins), session)
  | .viewAnchorSet name => do
      let set ← Session.look session.anchorSets name
      return (.anchorSet set, session)
  | .compareAnchorSets first second => do
      let first ← Session.look session.anchorSets first
      let second ← Session.look session.anchorSets second
      return (.truth (first = second), session)
  | .makeDefaultSources name given => do
      let (made, next) ←
        match given with
        | none => pure (makeMemorySources session)
        | some (system, user) => do
            let system ← Session.look session.sources system
            let user ← Session.look session.sources user
            pure (⟨system, user⟩, session)
      let sources := next.sources.assign (name ++ ".system") made.system
      return (.text (made.describe next.world.label),
        { next with
          sources := sources.assign (name ++ ".user") made.user
          defaultSources := next.defaultSources.assign name made })
  | .defaultBuilder name sources => do
      let sources ← Session.look session.defaultSources sources
      return (.done, { session with builders := session.builders.assign name sources.builder })
  | .installDefault sources name => do
      let sources ← Session.look session.defaultSources sources
      match session.world.installDefault sources with
      | (.error error, world) => return (.refused error, session.withWorld world)
      | (.ok policy, world) => return (.done, session.withWorld (world.own name policy))
  | .getDefault name =>
      match session.world.takeDefault with
      | (none, world) => .ok (.nothing, session.withWorld world)
      | (some policy, world) => .ok (.done, session.withWorld (world.own name policy))

end ValueStep
end TrustPolicy
