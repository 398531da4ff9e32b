import TrustPolicy.World.Anchors

/-!
# Notifiers

A notifier tells its sources that storage has changed and then invalidates the
anchors of its policies. It holds each source and each policy once, in the order
of registration. It does not keep policies alive, but for the time of an announcement,
and drops the entries of dead ones whenever a policy is registered or a change is
announced.
-/

namespace TrustPolicy

/-- The sources and policies that hear about changes. -/
structure Notifier where
  sources : List SourceId
  policies : List WeakPolicy
  deriving DecidableEq

namespace Notifier

/-- The notifier that nothing is registered with. -/
def empty : Notifier := ⟨[], []⟩

/-- The notifier with a source registered. -/
def registerSource
    (notifier : Notifier)
    (source : SourceId) : Notifier :=
  if source ∈ notifier.sources then notifier
  else { notifier with sources := notifier.sources ++ [source] }

/-- The notifier without entries of dead policies. -/
def prune
    (notifier : Notifier)
    (world : World) : Notifier :=
  { notifier with policies := notifier.policies.filter world.isAlive }

/-- The notifier with a policy registered. -/
def registerPolicy
    (notifier : Notifier)
    (world : World)
    (policy : WeakPolicy) : Notifier :=
  let pruned := notifier.prune world
  if policy ∈ pruned.policies then pruned
  else { pruned with policies := pruned.policies ++ [policy] }

/-- The number of entries for policies, dead ones included. -/
def registeredPolicies (notifier : Notifier) : Nat :=
  notifier.policies.length

/-- The number of registered policies that are alive. -/
def livePolicies
    (notifier : Notifier)
    (world : World) : Nat :=
  (notifier.policies.filter world.isAlive).length

end Notifier

namespace World

/-- What a source sees of a policy: whether anchors are cached, while it is alive. The
strong reference that it looks through is dropped at once. -/
def lookAt
    (world : World)
    (policy : WeakPolicy) : Option Bool :=
  (world.upgrade policy).1.map fun held => (world.policies.get held).anchors.isPopulated

/-- The world after a source was told that storage has changed. -/
def announceTo
    (world : World)
    (source : SourceId) : World :=
  world.modifySource source fun current => current.announced world.lookAt

/-- Invalidate the anchors of the living policies of a notifier, which are held meanwhile.
The result is their number, with the pruned notifier. -/
def invalidateRegistered
    (world : World)
    (notifier : Notifier) : Nat × Notifier × World :=
  let pruned := notifier.prune world
  let (live, held) := world.upgradeAll pruned.policies
  let invalidated := live.foldl invalidateAnchors held
  (live.length, pruned,
    (invalidated.report (.trustStoreChanged notifier.sources.length live.length)).releaseAll live)

/-- Tell all sources of a notifier about a change, one after another, then invalidate the
anchors of its living policies. What a source does when it is told is given. -/
def announceBy
    (handler : World → SourceId → World)
    (world : World)
    (notifier : Notifier) : Nat × Notifier × World :=
  (notifier.sources.foldl handler world).invalidateRegistered notifier

/-- Announce a change to a notifier, whose sources note it in their ways. -/
def announce
    (world : World)
    (notifier : Notifier) : Nat × Notifier × World :=
  announceBy announceTo world notifier

end World
end TrustPolicy
