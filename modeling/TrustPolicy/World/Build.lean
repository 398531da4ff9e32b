import TrustPolicy.BuilderSet
import TrustPolicy.World.Basic

/-!
# Building policies

A policy is built from a chain of builders: from the one builder that stands by
itself, or from a builder of a set and its ancestors. The values are resolved
once, and later changes to the builders do not reach the policy.
-/

namespace TrustPolicy
namespace World

/-- Build the policy that a chain of builders resolves to. -/
def buildChain
    (world : World)
    (chain : List Builder)
    (factory : Option FactoryId) : StrongPolicy × World :=
  (world.policies.fresh, world.buildPolicy (Settings.ofChain chain) factory)

/-- Build a builder by itself. -/
def build
    (world : World)
    (builder : Builder)
    (factory : Option FactoryId) : StrongPolicy × World :=
  world.buildChain [builder] factory

/-- Build a builder of a set, its ancestors included. -/
def buildIn
    (world : World)
    (set : BuilderSet)
    (id : BuilderId)
    (factory : Option FactoryId) : Except PolicyError StrongPolicy × World :=
  match set.chain id with
  | .error error => (.error error, world)
  | .ok chain =>
      let (policy, next) := world.buildChain chain.builders factory
      (.ok policy, next)

end World
end TrustPolicy
