import TrustPolicy.Bindings
import TrustPolicy.Event
import TrustPolicy.Policy

/-!
# Worlds

A world holds the shared objects, the names that own policies, the slot for the
default policy, and the events reported so far. A policy is alive while there are
strong references to it. These are counted: whoever makes one adds to the count, and
whoever drops one takes from it. A weak reference is just the identity of its policy,
which is upgraded to a strong one while the policy is alive.
-/

namespace TrustPolicy

/-- The shared objects and who owns policies. -/
structure World where
  sources : Arena .source Source
  factories : Arena .factory Factory
  policies : Arena .policy Policy
  /-- The number of strong references to each policy. -/
  strongCounts : Arena .policy Nat
  /-- The names that own policies. -/
  owners : Bindings StrongPolicy
  defaultPolicy : Option StrongPolicy
  /-- The number of snapshots and trust managers made so far. -/
  stamps : Nat
  /-- The events reported, the oldest first. -/
  events : List Event

namespace World

/-- The world without objects. -/
def initial : World :=
  ⟨Arena.empty, Arena.empty, Arena.empty, Arena.empty, Bindings.empty, none, 0, []⟩

/-- The world with one more event. -/
def report
    (world : World)
    (event : Event) : World :=
  { world with events := world.events ++ [event] }

/-- The world with a changed source. -/
def modifySource
    (world : World)
    (source : SourceId)
    (change : Source → Source) : World :=
  { world with sources := world.sources.modify source change }

/-- The world with a changed factory. -/
def modifyFactory
    (world : World)
    (factory : FactoryId)
    (change : Factory → Factory) : World :=
  { world with factories := world.factories.modify factory change }

/-- The world with a changed policy. -/
def modifyPolicy
    (world : World)
    (policy : PolicyId)
    (change : Policy → Policy) : World :=
  { world with policies := world.policies.modify policy change }

/-- The label of a source. -/
def label
    (world : World)
    (source : SourceId) : String :=
  (world.sources.get source).label

/-! ## References to policies -/

/-- Whether there are strong references to a policy. -/
def isAlive
    (world : World)
    (policy : WeakPolicy) : Bool :=
  0 < world.strongCounts.get policy

/-- The world with one more strong reference to a policy. -/
def retain
    (world : World)
    (policy : StrongPolicy) : World :=
  { world with strongCounts := world.strongCounts.modify policy (· + 1) }

/-- The world in which a strong reference to a policy is dropped. -/
def release
    (world : World)
    (policy : StrongPolicy) : World :=
  { world with strongCounts := world.strongCounts.modify policy (· - 1) }

/-- The world in which strong references are dropped one after another. -/
def releaseAll
    (world : World)
    (policies : List StrongPolicy) : World :=
  policies.foldl release world

/-- A strong reference to the policy of a weak one, if that policy is alive. -/
def upgrade
    (world : World)
    (policy : WeakPolicy) : Option StrongPolicy × World :=
  if world.isAlive policy then (some policy, world.retain policy) else (none, world)

/-- Strong references to those policies of weak ones that are alive. -/
def upgradeAll (world : World) : List WeakPolicy → List StrongPolicy × World
  | [] => ([], world)
  | weak :: rest =>
      match world.upgrade weak with
      | (none, next) => next.upgradeAll rest
      | (some policy, next) =>
          let (policies, final) := next.upgradeAll rest
          (policy :: policies, final)

/-- The world in which a name drops the strong reference that it holds. -/
def vacate
    (world : World)
    (name : String) : World :=
  { world with
    strongCounts :=
      match world.owners.find? name with
      | none => world.strongCounts
      | some policy => (world.release policy).strongCounts }

/-- The world in which a strong reference is given to a name, in place of the one that
the name holds. -/
def own
    (world : World)
    (name : String)
    (policy : StrongPolicy) : World :=
  { world.vacate name with owners := world.owners.assign name policy }

/-- The world in which a name holds no policy. -/
def disown
    (world : World)
    (name : String) : World :=
  { world.vacate name with owners := world.owners.erase name }

/-! ## New policies -/

/-- The world with a policy of some settings, which is its fresh one. There is one strong
reference to it, which belongs to whoever builds it. -/
def buildPolicy
    (world : World)
    (settings : Settings)
    (factory : Option FactoryId) : World :=
  { world with
    policies := world.policies.add (Policy.ofSettings settings factory world.policies.fresh)
    strongCounts := world.strongCounts.add 1 }.report
    (.builtPolicy settings.cleartextPermitted settings.hstsEnforced settings.pins.size
      settings.entryRefs.length)

end World
end TrustPolicy
