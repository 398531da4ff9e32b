import Mathlib.Data.List.Intervals
import TrustPolicy.Proofs.Epochs
import TrustPolicy.Proofs.Failures

/-!
# Trust managers in runs

A policy is given at most one trust manager in a run, whatever else happens in
between. It asks its factory exactly when it is asked and has none yet, so what a
counting factory has noted are these requests. The cells of policies for anchors
play no part in this.
-/

namespace TrustPolicy
namespace World

/-! ## Single requests -/

section Requests

variable
  {world : World}
  {policy other : PolicyId}
  {factory : FactoryId}
  {call : Call}

/-- A policy without a trust manager is given what its factory answers. -/
theorem trustManager_fst_of_slot_eq_none
    (unfilled : (world.policies.get policy).manager.slot = none) :
    (world.trustManager policy).1 =
      (requestManager (world.policies.get policy).factory (world.policies.get policy).this
        world).1 := by
  have cell : (world.policies.get policy).manager = ⟨none⟩ := by
    rw [← unfilled]
  rw [trustManager, cell]
  dsimp only [CacheCell.getOrTryInit, createManager]
  rcases requestManager (world.policies.get policy).factory (world.policies.get policy).this world
    with ⟨_ | _, _⟩ <;> rfl

/-- A policy without a trust manager asks its factory once, and no other one. -/
theorem factories_trustManager_of_slot_eq_none
    (unfilled : (world.policies.get policy).manager.slot = none) :
    (world.trustManager policy).2.factories =
      (world.requested (world.policies.get policy).factory
        (world.policies.get policy).this).factories := by
  rcases world.trustManager_cases policy with
    ⟨_, cached, _⟩ | ⟨_, ⟨_, granted⟩ | ⟨asked, uses, _, refused⟩⟩
  · exact absurd (unfilled.symm.trans cached) (by simp)
  · rw [granted]
    rfl
  · rw [refused, uses]

/-- A request for a trust manager touches no source. -/
theorem sources_trustManager : (world.trustManager policy).2.sources = world.sources := by
  obtain ⟨_, _, _, _, _, after⟩ := world.exists_trustManager_snd_eq policy
  rw [after]

/-- A request for a trust manager touches no cell for anchors. -/
theorem anchors_trustManager :
    ((world.trustManager policy).2.policies.get other).anchors =
      (world.policies.get other).anchors := by
  obtain ⟨_, cell, _, _, _, after⟩ := world.exists_trustManager_snd_eq policy
  rw [after]
  dsimp only
  rcases world.policies.get_modify_cases other policy
      (fun current => { current with manager := cell }) with same | changed
  · rw [same]
  · rw [changed]

/-- What a call does to a factory: the requests that it makes of the factory are noted,
and it may be told to fail or to stop failing. -/
structure Notes
    (world : World)
    (factory : FactoryId)
    (call : Call) : Prop where
  held : (world.perform call).factories.Holds factory
  requests : ((world.perform call).factories.get factory).requests =
    (world.factories.get factory).requests + (requestsTo (call.requests world) factory).length
  bound : ((world.perform call).factories.get factory).bound =
    (world.factories.get factory).bound ++ requestsTo (call.requests world) factory

/-- What a call makes of the factories. -/
inductive FactoriesBecome (world : World) : Call → Arena .factory Factory → Prop
  | kept
      {call : Call}
      (silent : call.requests world = []) :
      FactoriesBecome world call world.factories
  | noted
      {call : Call}
      {policy : PolicyId}
      {factory : FactoryId}
      (uses : (world.policies.get policy).factory = some factory)
      (asks : call.requests world = [(factory, (world.policies.get policy).this)]) :
      FactoriesBecome world call
        (world.requested (some factory) (world.policies.get policy).this).factories
  | added : FactoriesBecome world .addFactory (world.factories.add {})
  | told
      (factory : FactoryId)
      (failing : Bool) :
      FactoriesBecome world (.setFailing factory failing)
        (world.factories.modify factory fun current => { current with failing := failing })

/-- A policy that is asked for its trust manager has its factory note the request if it
has no trust manager yet. -/
theorem factoriesBecome_trustManager :
    world.FactoriesBecome (.trustManager policy)
      (world.perform (.trustManager policy)).factories := by
  cases cached : (world.policies.get policy).manager.slot with
  | some manager =>
      have filled : (world.policies.get policy).manager.isPopulated = true := by
        rw [CacheCell.isPopulated, cached]
        rfl
      rw [perform, trustManager_of_slot_eq_some cached]
      exact .kept (by rw [Call.requests, if_pos filled])
  | none =>
      have after := factories_trustManager_of_slot_eq_none cached
      have asks : Call.requests world (.trustManager policy) =
          ((world.policies.get policy).factory.map fun factory =>
            (factory, (world.policies.get policy).this)).toList := by
        rw [Call.requests, CacheCell.isPopulated_of_slot_eq_none cached]
        rfl
      cases uses : (world.policies.get policy).factory with
      | none =>
          rw [uses] at after asks
          rw [perform, after]
          exact .kept asks
      | some factory =>
          rw [uses] at after asks
          rw [perform, after]
          exact .noted uses asks

theorem factoriesBecome_perform
    (call : Call) :
    world.FactoriesBecome call (world.perform call).factories := by
  have afterRead (read : PolicyId) :
      (world.perform (.trustAnchors read)).factories = world.factories := by
    obtain ⟨_, _, _, _, _, after⟩ := world.exists_trustAnchors_snd_eq read
    rw [perform, after]
  cases call with
  | trustManager asked => exact factoriesBecome_trustManager
  | trustAnchors read =>
      rw [afterRead]
      exact .kept rfl
  | acceptedIssuers manager =>
      rw [perform_acceptedIssuers]
      split
      · rw [afterRead]
        exact .kept rfl
      · exact .kept rfl
  | invalidateAnchors dropped =>
      rw [perform, invalidateAnchors_eq]
      exact .kept rfl
  | announce notifier =>
      rw [perform, announce_snd_snd_eq]
      exact .kept rfl
  | installDefault name sources =>
      rw [perform_installDefault]
      split <;> exact .kept rfl
  | ownDefault name =>
      rw [perform_ownDefault]
      exact .kept rfl
  | addFactory => exact .added
  | setFailing told failing => exact .told told failing
  | _ => exact .kept rfl

/-- A factory notes the requests that calls make of it, and nothing else. -/
theorem notes_perform
    (held : world.factories.Holds factory) :
    world.Notes factory call := by
  suffices noted : (world.perform call).factories.Holds factory ∧
      ((world.perform call).factories.get factory).requests =
        (world.factories.get factory).requests +
          (requestsTo (call.requests world) factory).length ∧
      ((world.perform call).factories.get factory).bound =
        (world.factories.get factory).bound ++ requestsTo (call.requests world) factory from
    ⟨noted.1, noted.2.1, noted.2.2⟩
  have becomes := world.factoriesBecome_perform call
  generalize (world.perform call).factories = factories at becomes ⊢
  cases becomes with
  | kept silent =>
      rw [silent]
      exact ⟨held, rfl, (List.append_nil _).symm⟩
  | @noted _ policy asked uses asks =>
      have counts : world.DiffersInCounts
          (world.requested (some asked) (world.policies.get policy).this) []
          [(asked, (world.policies.get policy).this)] := differsInCounts_requested asked _
      rw [counts.factories factory held, asks]
      exact ⟨(counts.heldFactories factory).2 held, rfl, rfl⟩
  | added =>
      rw [Arena.get_add_of_holds held]
      exact ⟨Arena.holds_add.2 (.inl held), rfl, (List.append_nil _).symm⟩
  | told told failing =>
      refine ⟨Arena.holds_modify.2 held, ?_⟩
      rcases world.factories.get_modify_cases factory told
          (fun current => { current with failing := failing }) with same | changed
      · rw [same]
        exact ⟨rfl, (List.append_nil _).symm⟩
      · rw [changed]
        exact ⟨rfl, (List.append_nil _).symm⟩

end Requests

/-! ## Positions of a run -/

/-- The trust manager that a policy holds at a position. -/
def managerAt
    (calls : List Call)
    (policy : PolicyId)
    (position : Nat) : Option TrustManager :=
  ((worldAt calls position).policies.get policy).manager.slot

/-- The factory of a policy at a position. -/
def factoryAt
    (calls : List Call)
    (policy : PolicyId)
    (position : Nat) : Option FactoryId :=
  ((worldAt calls position).policies.get policy).factory

/-- Whether the call at a position asks a policy for its trust manager, with a result. -/
structure AskedAt
    (calls : List Call)
    (policy : PolicyId)
    (position : Nat)
    (result : Except PolicyError TrustManager) : Prop where
  /-- The policy has been built. -/
  held : (worldAt calls position).policies.Holds policy
  asks : calls[position]? = some (.trustManager policy)
  answer : ((worldAt calls position).trustManager policy).1 = result

/-- The requests that the call at a position makes of factories: one of the policy's
factory for this policy, if it asks a policy for its trust manager that has none yet. -/
def requestsAt
    (calls : List Call)
    (position : Nat) : List Request :=
  match calls[position]? with
  | some (.trustManager policy) =>
      if (managerAt calls policy position).isSome then []
      else ((factoryAt calls policy position).map fun factory => (factory, policy)).toList
  | _ => []

/-- The policies for which a factory was asked from one position up to another one, in
order. -/
def requestedBetween
    (calls : List Call)
    (factory : FactoryId)
    (first last : Nat) : List PolicyId :=
  requestsTo ((List.Ico first last).flatMap (requestsAt calls)) factory

section Positions

variable
  {calls : List Call}
  {policy : PolicyId}
  {factory : FactoryId}
  {position first last : Nat}
  {manager : TrustManager}
  {raised : PolicyError}
  {result : Except PolicyError TrustManager}

/-- A policy asks its factory for itself, so the requests of a call name the policy that it
asks. -/
theorem requests_eq_requestsAt
    {call : Call}
    (present : calls[position]? = some call) :
    call.requests (worldAt calls position) = requestsAt calls position := by
  rw [requestsAt, present]
  cases call with
  | trustManager asked =>
      by_cases held : (worldAt calls position).policies.Holds asked
      · have itself : ((worldAt calls position).policies.get asked).this = asked :=
          knowsItself_worldAt asked held
        rw [Call.requests, itself]
        rfl
      · have asksNobody : ((worldAt calls position).policies.get asked).factory = none := by
          rw [Arena.get_of_not_holds held]
          rfl
        simp [Call.requests, factoryAt, asksNobody]
  | _ => rfl

namespace AskedAt

/-- A policy that is asked for its trust manager knows itself. -/
theorem knowsItself
    (asked : AskedAt calls policy position result) :
    ((worldAt calls position).policies.get policy).this = policy :=
  knowsItself_worldAt policy asked.held

theorem worldAt_succ
    (asked : AskedAt calls policy position result) :
    worldAt calls (position + 1) = ((worldAt calls position).trustManager policy).2 :=
  World.worldAt_succ asked.asks

/-- A policy that has a trust manager answers with it and asks nobody. -/
theorem of_filled
    (asked : AskedAt calls policy position result)
    (cached : managerAt calls policy position = some manager) :
    result = .ok manager ∧ worldAt calls (position + 1) = worldAt calls position := by
  have answer := trustManager_of_slot_eq_some cached
  constructor
  · rw [← asked.answer, answer]
  · rw [asked.worldAt_succ, answer]

/-- A policy that has no trust manager and is given one keeps it. -/
theorem of_unfilled
    (asked : AskedAt calls policy position (.ok manager))
    (unfilled : managerAt calls policy position = none) :
    manager = ⟨(worldAt calls position).stamps, policy⟩ ∧
      managerAt calls policy (position + 1) = some manager := by
  rcases (worldAt calls position).trustManager_cases policy with
    ⟨_, cached, _⟩ | ⟨_, ⟨_, granted⟩ | ⟨_, _, _, refused⟩⟩
  · exact absurd (unfilled.symm.trans cached) (by simp)
  · rw [asked.knowsItself] at granted
    obtain rfl : (⟨(worldAt calls position).stamps, policy⟩ : TrustManager) = manager :=
      Except.ok.inj ((congrArg Prod.fst granted).symm.trans asked.answer)
    refine ⟨rfl, ?_⟩
    rw [managerAt, asked.worldAt_succ, granted]
    dsimp only
    rw [policies_granted, Arena.get_modify_self asked.held, asked.knowsItself]
  · exact absurd ((congrArg Prod.fst refused).symm.trans asked.answer) (by simp)

/-- A policy that is refused a trust manager had none and has none after that. -/
theorem of_error
    (asked : AskedAt calls policy position (.error raised)) :
    managerAt calls policy position = none ∧ managerAt calls policy (position + 1) = none ∧
      ∃ factory, factoryAt calls policy position = some factory ∧
        ((worldAt calls position).factories.get factory).failing = true ∧
        raised = .trustManager "factory unavailable" := by
  rcases (worldAt calls position).trustManager_cases policy with
    ⟨_, _, cached⟩ | ⟨unfilled, ⟨_, granted⟩ | ⟨factory, uses, failing, refused⟩⟩
  · exact absurd ((congrArg Prod.fst cached).symm.trans asked.answer) (by simp)
  · exact absurd ((congrArg Prod.fst granted).symm.trans asked.answer) (by simp)
  · refine ⟨unfilled, ?_, factory, uses, failing, ?_⟩
    · rw [managerAt, asked.worldAt_succ, refused]
      exact unfilled
    · exact Except.error.inj (asked.answer.symm.trans (congrArg Prod.fst refused))

theorem managerAt_succ
    (asked : AskedAt calls policy position (.ok manager)) :
    managerAt calls policy (position + 1) = some manager := by
  cases cached : managerAt calls policy position with
  | none => exact (asked.of_unfilled cached).2
  | some found =>
      obtain ⟨same, unchanged⟩ := asked.of_filled cached
      rw [managerAt, unchanged, ← managerAt, cached, Except.ok.inj same]

end AskedAt

/-- Only a request for the trust manager of a policy changes whether it has one. -/
theorem managerAt_succ_of_ne
    (notAsks : calls[position]? ≠ some (.trustManager policy)) :
    managerAt calls policy (position + 1) = managerAt calls policy position := by
  cases present : calls[position]? with
  | none => rw [managerAt, worldAt, stateAt_succ_of_none present, ← worldAt, ← managerAt]
  | some call =>
      rw [managerAt, managerAt, World.worldAt_succ present]
      by_cases held : (worldAt calls position).policies.Holds policy
      · rw [manager_perform_of_ne held]
        intro same
        exact notAsks (present.trans (congrArg some same))
      · obtain ⟨_, _, _, built, -⟩ := get_perform_of_not_holds call held
        rw [built, Arena.get_of_not_holds held]
        rfl

/-- A policy that has a trust manager has been built. -/
theorem holds_of_managerAt
    (cached : managerAt calls policy position = some manager) :
    (worldAt calls position).policies.Holds policy := by
  by_contra unheld
  rw [managerAt, Arena.get_of_not_holds unheld] at cached
  exact absurd cached (by simp [default, Policy.ofSettings, CacheCell.empty])

/-! ## Runs -/

/-- A policy never loses its trust manager. -/
theorem managerAt_of_le
    (ordered : first ≤ last)
    (cached : managerAt calls policy first = some manager) :
    managerAt calls policy last = some manager := by
  induction ordered with
  | refl => exact cached
  | @step position _ inductionHypothesis =>
      by_cases asks : calls[position]? = some (.trustManager policy)
      · have asked : AskedAt calls policy position _ :=
          ⟨holds_of_managerAt inductionHypothesis, asks, rfl⟩
        rw [managerAt, (asked.of_filled inductionHypothesis).2, ← managerAt, inductionHypothesis]
      · rw [managerAt_succ_of_ne asks, inductionHypothesis]

/-- A factory has noted the requests that were made of it, and nothing else. -/
theorem requestedBetween_of_le
    (ordered : first ≤ last)
    (held : (worldAt calls first).factories.Holds factory) :
    (worldAt calls last).factories.Holds factory ∧
      ((worldAt calls last).factories.get factory).requests =
        ((worldAt calls first).factories.get factory).requests +
          (requestedBetween calls factory first last).length ∧
      ((worldAt calls last).factories.get factory).bound =
        ((worldAt calls first).factories.get factory).bound ++
          requestedBetween calls factory first last := by
  induction ordered with
  | refl =>
      rw [requestedBetween, List.Ico.self_empty]
      exact ⟨held, rfl, (List.append_nil _).symm⟩
  | @step position ordered inductionHypothesis =>
      obtain ⟨heldBefore, requests, bound⟩ := inductionHypothesis
      have splits : requestedBetween calls factory first (position + 1) =
          requestedBetween calls factory first position ++
            requestsTo (requestsAt calls position) factory := by
        rw [requestedBetween, List.Ico.succ_top ordered, List.flatMap_append, requestsTo_append,
          List.flatMap_singleton, ← requestedBetween]
      rw [splits, List.length_append]
      cases present : calls[position]? with
      | none =>
          rw [requestsAt, present, worldAt, stateAt_succ_of_none present, ← worldAt]
          exact ⟨heldBefore, requests, bound.trans (by simp [requestsTo])⟩
      | some call =>
          rw [← requests_eq_requestsAt present, World.worldAt_succ present]
          have notes : (worldAt calls position).Notes factory call := notes_perform heldBefore
          refine ⟨notes.held, ?_, ?_⟩
          · rw [notes.requests, requests, Nat.add_assoc]
          · rw [notes.bound, bound, List.append_assoc]

/-! ## One trust manager -/

/-- What a run does to the trust manager of a policy. -/
structure HasOneManager
    (calls : List Call)
    (policy : PolicyId) : Prop where
  /-- The weak reference that a policy hands to its factory is one to itself. -/
  itself : ∀ position, (worldAt calls position).policies.Holds policy →
    ((worldAt calls position).policies.get policy).this = policy
  /-- After a successful call, all calls are given the same trust manager. -/
  constant : ∀ first last manager result, first < last →
    AskedAt calls policy first (.ok manager) →
    AskedAt calls policy last result →
    result = .ok manager
  /-- Of the calls that ask the factory, at most one succeeds. -/
  once : ∀ first last earlier later,
    AskedAt calls policy first (.ok earlier) → managerAt calls policy first = none →
    AskedAt calls policy last (.ok later) → managerAt calls policy last = none →
    first = last
  /-- A call on a filled cell asks nobody and changes nothing. -/
  filled : ∀ position manager result, AskedAt calls policy position result →
    managerAt calls policy position = some manager →
    result = .ok manager ∧ worldAt calls (position + 1) = worldAt calls position
  /-- A call on an empty cell is given what the factory answers, which notes this one
  request for the policy. -/
  asks : ∀ position result, AskedAt calls policy position result →
    managerAt calls policy position = none →
    (requestManager (factoryAt calls policy position) policy (worldAt calls position)).1 =
        result ∧
      (worldAt calls (position + 1)).factories =
        ((worldAt calls position).requested (factoryAt calls policy position) policy).factories
  /-- A call on an empty cell that succeeds fills it with a new trust manager that is
  bound to the policy. -/
  succeeds : ∀ position manager, AskedAt calls policy position (.ok manager) →
    managerAt calls policy position = none →
    manager = ⟨(worldAt calls position).stamps, policy⟩ ∧
      managerAt calls policy (position + 1) = some manager
  /-- A call that fails has found the cell empty and leaves it so, and its error is that
  of the failing factory. -/
  fails : ∀ position raised, AskedAt calls policy position (.error raised) →
    managerAt calls policy position = none ∧ managerAt calls policy (position + 1) = none ∧
      ∃ factory, factoryAt calls policy position = some factory ∧
        ((worldAt calls position).factories.get factory).failing = true ∧
        raised = .trustManager "factory unavailable"
  /-- A trust manager is never dropped or replaced. -/
  kept : ∀ first last manager, first ≤ last → managerAt calls policy first = some manager →
    managerAt calls policy last = some manager
  /-- No other call fills the cell. -/
  unaffected : ∀ position, calls[position]? ≠ some (.trustManager policy) →
    managerAt calls policy (position + 1) = managerAt calls policy position
  /-- A call queries no source and touches no cell for anchors. -/
  apart : ∀ position, calls[position]? = some (.trustManager policy) →
    (worldAt calls (position + 1)).sources = (worldAt calls position).sources ∧
      ∀ other, ((worldAt calls (position + 1)).policies.get other).anchors =
        ((worldAt calls position).policies.get other).anchors
  /-- A factory has noted the calls that were made since it was added, on all policies that
  use it, while their cells were empty, and has counted these. -/
  counted : ∀ added last, added < last → calls[added]? = some .addFactory →
    let factory := (worldAt calls added).factories.fresh
    let requested := requestedBetween calls factory (added + 1) last
    ((worldAt calls last).factories.get factory).requests = requested.length ∧
      ((worldAt calls last).factories.get factory).bound = requested

/-- In every run, every policy has at most one trust manager. -/
theorem hasOneManager
    (calls : List Call)
    (policy : PolicyId) :
    HasOneManager calls policy where
  itself _ := knowsItself_worldAt policy
  constant first last manager result ordered earlier later :=
    (later.of_filled (managerAt_of_le ordered earlier.managerAt_succ)).1
  once first last earlier later firstAsked firstUnfilled lastAsked lastUnfilled := by
    -- Whichever call comes first fills the cell for the other one.
    rcases Nat.lt_trichotomy first last with before | same | after
    · have cached := managerAt_of_le before firstAsked.managerAt_succ
      exact absurd (lastUnfilled.symm.trans cached) (by simp)
    · exact same
    · have cached := managerAt_of_le after lastAsked.managerAt_succ
      exact absurd (firstUnfilled.symm.trans cached) (by simp)
  filled position manager result asked := asked.of_filled
  asks position result asked unfilled := by
    constructor
    · rw [← asked.answer, trustManager_fst_of_slot_eq_none unfilled, factoryAt, asked.knowsItself]
    · rw [asked.worldAt_succ, factories_trustManager_of_slot_eq_none unfilled, factoryAt,
        asked.knowsItself]
  succeeds position manager asked := asked.of_unfilled
  fails position raised asked := asked.of_error
  kept first last manager := managerAt_of_le
  unaffected position := managerAt_succ_of_ne
  apart position asks := by
    rw [World.worldAt_succ asks]
    exact ⟨sources_trustManager, fun other => anchors_trustManager⟩
  counted added last ordered adds := by
    intro factory requested
    have after : worldAt calls (added + 1) =
        { worldAt calls added with factories := (worldAt calls added).factories.add {} } :=
      World.worldAt_succ adds
    have made : (worldAt calls (added + 1)).factories.get factory = {} := by
      rw [after]
      exact Arena.get_add_fresh
    have held : (worldAt calls (added + 1)).factories.Holds factory := by
      rw [after]
      exact Arena.holds_add.2 (.inr rfl)
    obtain ⟨_, requests, bound⟩ := requestedBetween_of_le ordered held
    rw [made] at requests bound
    exact ⟨requests.trans (Nat.zero_add _), bound⟩

end Positions

/-- Two policies share a factory, which refuses the first request. The first policy is
given its trust manager when the factory has recovered, and keeps it when its anchors
are dropped and the factory fails again. -/
theorem one_manager_of_shared_factory :
    let factory : FactoryId := ⟨0⟩
    let first : PolicyId := ⟨0⟩
    let second : PolicyId := ⟨1⟩
    let calls : List Call :=
      [.addFactory, .buildChain "first" [Builder.blank] (some factory),
        .buildChain "second" [Builder.blank] (some factory), .setFailing factory true,
        .trustManager first, .setFailing factory false, .trustManager first,
        .trustManager second, .invalidateAnchors first, .setFailing factory true,
        .trustManager first]
    ∃ raised manager,
      AskedAt calls first 4 (.error raised) ∧ managerAt calls first 5 = none ∧
      AskedAt calls first 6 (.ok manager) ∧ AskedAt calls first 10 (.ok manager) ∧
      manager.policy = first ∧
      ((worldAt calls 11).factories.get factory).requests = 3 ∧
      ((worldAt calls 11).factories.get factory).bound = [first, first, second] := by
  intro factory first second calls
  have one := hasOneManager calls first
  have refused : AskedAt calls first 4 (.error (.trustManager "factory unavailable")) :=
    ⟨by decide, rfl, rfl⟩
  have granted : AskedAt calls first 6 (.ok ⟨0, first⟩) := ⟨by decide, rfl, rfl⟩
  have again : AskedAt calls first 10 ((worldAt calls 10).trustManager first).1 :=
    ⟨by decide, rfl, rfl⟩
  have same := one.constant 6 10 _ _ (by decide) granted again
  obtain ⟨-, unfilled, -⟩ := one.fails 4 _ refused
  have requested : requestedBetween calls factory 1 11 = [first, first, second] := by
    decide +kernel
  obtain ⟨requests, bound⟩ := one.counted 0 11 (by decide) rfl
  refine ⟨_, _, refused, unfilled, granted, same ▸ again, rfl, ?_, ?_⟩
  · exact requests.trans (congrArg List.length requested)
  · exact bound.trans requested

end World
end TrustPolicy
