import TrustPolicy.World.Anchors

/-!
# Trust managers of policies

A policy asks its factory for a trust manager on first use and keeps it for
good. A trust manager is bound to its policy without keeping it alive, and
accepts the certificates of the policy's anchors as issuers.
-/

namespace TrustPolicy
namespace World

/-- A new trust manager that is bound to a policy. -/
def stampManager
    (world : World)
    (policy : WeakPolicy) : TrustManager × World :=
  (⟨world.stamps, policy⟩, { world with stamps := world.stamps + 1 })

/-- The trust manager that a factory makes for a policy. A counting factory
notes every request, whether it fails or not. -/
def requestManager
    (factory : Option FactoryId)
    (policy : WeakPolicy)
    (world : World) : Except PolicyError TrustManager × World :=
  match factory with
  | none =>
      let (manager, next) := world.stampManager policy
      (.ok manager, next)
  | some id =>
      let noted := world.modifyFactory id fun current =>
        { current with requests := current.requests + 1, bound := current.bound ++ [policy] }
      if (world.factories.get id).failing then
        (.error (.trustManager "factory unavailable"), noted)
      else
        let (manager, next) := noted.stampManager policy
        (.ok manager, next)

/-- The trust manager that a policy's factory makes, with a report of success. -/
def createManager
    (factory : Option FactoryId)
    (policy : WeakPolicy)
    (world : World) : Except PolicyError TrustManager × World :=
  match requestManager factory policy world with
  | (.ok manager, next) => (.ok manager, next.report .createdManager)
  | (.error error, next) => (.error error, next)

/-- The trust manager of a policy, from its cell or made anew for the policy that the
policy knows itself by. -/
def trustManager
    (world : World)
    (policy : PolicyId) : Except PolicyError TrustManager × World :=
  let found := world.policies.get policy
  let (result, cell, next) :=
    found.manager.getOrTryInit (createManager found.factory found.this) world
  (result, next.modifyPolicy policy fun current => { current with manager := cell })

/-- A strong reference to the policy that a trust manager is bound to, if it is alive. -/
def boundPolicy
    (world : World)
    (manager : TrustManager) : Option StrongPolicy × World :=
  world.upgrade manager.policy

/-- The certificates that a trust manager accepts as issuers: those of its
policy's anchors, while the policy is alive. The policy is held for the time of the
request. -/
def acceptedIssuers
    (world : World)
    (manager : TrustManager) : Except PolicyError (List Certificate) × World :=
  match world.boundPolicy manager with
  | (none, next) => (.error (.trustManager "the bound policy has been dropped"), next)
  | (some policy, next) =>
      let (result, read) := next.trustAnchors policy
      (result.map fun snapshot => snapshot.anchors.certificates, read.release policy)

end World
end TrustPolicy
