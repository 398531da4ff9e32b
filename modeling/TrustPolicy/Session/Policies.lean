import TrustPolicy.Session.Basic

/-!
# Steps on policies, trust managers, and notifiers

Policies are shown, queried for anchors and trust managers, invalidated, and
dropped. Trust managers, factories, and notifiers never own a policy.
-/

namespace TrustPolicy

/-- What several callers ask a policy for at once. -/
inductive Demand
  | anchors
  | manager
  deriving DecidableEq

/-- A step on policies, trust managers, or notifiers. -/
inductive PolicyStep
  | view (policy : String)
  | describe (policy : String)
  | takeAnchors (policy : String) (kept : Option String)
  | viewSnapshot (name : String)
  | sameSnapshot (first second : String)
  | cached (policy : String)
  | invalidate (policy : String)
  | same (first second : String)
  | sameConfiguration (first second : String)
  | drop (policy : String)
  | demand (policy : String) (what : Demand) (callers : Nat)
  | makeFactory (name : String)
  | setFactoryFailing (factory : String) (failing : Bool)
  | factoryStats (factory : String)
  | takeManager (policy kept : String)
  | issuers (manager : String)
  | sameManager (first second : String)
  | bindManager (policy kept : String)
  | viewManager (manager : String)
  | makeNotifier (name : String)
  | registerSource (notifier source : String)
  | registerPolicy (notifier policy : String)
  | announce (notifier : String)
  | notifierStats (notifier : String)

namespace Session

/-- The name that a living policy is shown by. -/
def policyName?
    (session : Session)
    (policy : WeakPolicy) : Option String :=
  (session.world.upgrade policy).1.bind session.world.owners.firstName?

/-- A policy as it is listed. -/
def listPolicy
    (session : Session)
    (policy : Policy) : PolicyListing where
  cleartextPermitted := policy.settings.cleartextPermitted
  hstsEnforced := policy.settings.hstsEnforced
  pins := policy.settings.pins
  entryRefs := policy.settings.entryRefs.map session.listRef
  cached := policy.anchors.isPopulated

/-- The results of callers that ask one after another, and the world after them. -/
def askRepeatedly
    (ask : World → Except PolicyError α × World) :
    Nat → World → List (Except PolicyError α) × World
  | 0, world => ([], world)
  | callers + 1, world =>
      let (result, next) := ask world
      let (results, final) := askRepeatedly ask callers next
      (result :: results, final)

/-- The stamps in results, or the first error among them. -/
def stampsOf
    (stamp : α → Nat) : List (Except PolicyError α) → Except PolicyError (List Nat)
  | [] => .ok []
  | .error error :: _ => .error error
  | .ok value :: rest => (stampsOf stamp rest).map (stamp value :: ·)

/-- Whether all numbers of a list are equal. -/
def allEqual : List Nat → Bool
  | [] => true
  | first :: rest => rest.all (· == first)

/-- The answer to callers that asked at once for an object with a stamp. -/
def answerAgreement
    (session : Session)
    (stamp : α → Nat)
    (ask : World → Except PolicyError α × World)
    (callers : Nat) : Answer × Session :=
  let (results, world) := askRepeatedly ask callers session.world
  (answerOf (fun stamps => .agreement (allEqual stamps)) (stampsOf stamp results),
    session.withWorld world)

end Session

namespace PolicyStep

/-- Carry out a step on policies, trust managers, or notifiers. -/
def run
    (session : Session) : PolicyStep → Except Answer (Answer × Session)
  | .view name => do
      let id ← session.policy name
      return (.policy (session.listPolicy (session.world.policies.get id)), session)
  | .describe name => do
      let id ← session.policy name
      return (.text ((session.world.policies.get id).describe session.world.label), session)
  | .takeAnchors name kept => do
      let id ← session.policy name
      let (result, world) := session.world.trustAnchors id
      let next := session.withWorld world
      match result, kept with
      | .error error, _ => return (.refused error, next)
      | .ok snapshot, none => return (.anchors snapshot.anchors.anchors, next)
      | .ok snapshot, some kept =>
          return (.anchors snapshot.anchors.anchors,
            { next with snapshots := next.snapshots.assign kept snapshot })
  | .viewSnapshot name => do
      let snapshot ← Session.look session.snapshots name
      return (.anchors snapshot.anchors.anchors, session)
  | .sameSnapshot first second => do
      let first ← Session.look session.snapshots first
      let second ← Session.look session.snapshots second
      return (.truth (first.stamp = second.stamp), session)
  | .cached name => do
      let id ← session.policy name
      return (.truth (session.world.policies.get id).anchors.isPopulated, session)
  | .invalidate name => do
      let id ← session.policy name
      return (.done, session.withWorld (session.world.invalidateAnchors id))
  | .same first second => do
      let first ← session.policy first
      let second ← session.policy second
      return (.truth (first = second), session)
  | .sameConfiguration first second => do
      let first ← session.policy first
      let second ← session.policy second
      return (.truth ((session.world.policies.get first).sameConfiguration
        (session.world.policies.get second)), session)
  | .drop name => do
      let _ ← session.policy name
      return (.done, session.withWorld (session.world.disown name))
  | .demand name what callers => do
      let id ← session.policy name
      match what with
      | .anchors =>
          return session.answerAgreement Snapshot.stamp (fun world => world.trustAnchors id) callers
      | .manager =>
          return session.answerAgreement TrustManager.stamp (fun world => world.trustManager id)
            callers
  | .makeFactory name =>
      .ok (.done,
        { session with
          world := { session.world with factories := session.world.factories.add {} }
          factories := session.factories.assign name session.world.factories.fresh })
  | .setFactoryFailing name failing => do
      let id ← Session.look session.factories name
      return (.done, session.withWorld (session.world.modifyFactory id fun current =>
        { current with failing := failing }))
  | .factoryStats name => do
      let id ← Session.look session.factories name
      let factory := session.world.factories.get id
      return (.factory factory.requests (factory.bound.map session.policyName?), session)
  | .takeManager name kept => do
      let id ← session.policy name
      let (result, world) := session.world.trustManager id
      let next := session.withWorld world
      match result with
      | .error error => return (.refused error, next)
      | .ok manager => return (.done, { next with managers := next.managers.assign kept manager })
  | .issuers name => do
      let manager ← Session.look session.managers name
      let (result, world) := session.world.acceptedIssuers manager
      return (Session.answerOf .certificates result, session.withWorld world)
  | .sameManager first second => do
      let first ← Session.look session.managers first
      let second ← Session.look session.managers second
      return (.truth (first.stamp = second.stamp), session)
  | .bindManager name kept => do
      let id ← session.policy name
      let (manager, world) := session.world.stampManager id
      return (.done,
        { session with
          world := world
          directManagers := session.directManagers.assign kept manager })
  | .viewManager name => do
      let manager ← Session.look session.directManagers name
      let (held, _) := session.world.boundPolicy manager
      let (result, world) := session.world.acceptedIssuers manager
      return (.boundManager held.isSome (held.bind session.world.owners.firstName?) result,
        session.withWorld world)
  | .makeNotifier name =>
      .ok (.done, { session with notifiers := session.notifiers.assign name Notifier.empty })
  | .registerSource name source => do
      let notifier ← Session.look session.notifiers name
      let source ← Session.look session.sources source
      return (.done, { session with
        notifiers := session.notifiers.assign name (notifier.registerSource source) })
  | .registerPolicy name policy => do
      let notifier ← Session.look session.notifiers name
      let id ← session.policy policy
      return (.done, { session with
        notifiers := session.notifiers.assign name (notifier.registerPolicy session.world id) })
  | .announce name => do
      let notifier ← Session.look session.notifiers name
      let (live, pruned, world) := session.world.announce notifier
      return (.count live,
        { session with world := world, notifiers := session.notifiers.assign name pruned })
  | .notifierStats name => do
      let notifier ← Session.look session.notifiers name
      return (.registrations notifier.registeredPolicies (notifier.livePolicies session.world),
        session)

end PolicyStep
end TrustPolicy
