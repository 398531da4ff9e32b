import TrustPolicy.World.Managers

/-!
# Requests for trust managers

A policy asks for a trust manager only while its cell is empty. A counting
factory notes each request; if it fails, its note is all that is left of the
request.
-/

namespace TrustPolicy

namespace Factory

/-- The factory after a request for a policy. -/
def requested
    (factory : Factory)
    (policy : WeakPolicy) : Factory :=
  { factory with requests := factory.requests + 1, bound := factory.bound ++ [policy] }

end Factory

namespace World

section Requests

variable
  {world : World}
  {policy : PolicyId}
  {manager : TrustManager}

/-- The world after a request to a factory, if there is one. -/
def requested
    (world : World)
    (factory : Option FactoryId)
    (policy : WeakPolicy) : World :=
  match factory with
  | none => world
  | some id => world.modifyFactory id fun current => current.requested policy

/-- The world after a request for a policy with an empty cell that was granted: the
cell holds a new trust manager. -/
def granted
    (world : World)
    (policy : PolicyId) : World :=
  let found := world.policies.get policy
  ({ world.requested found.factory found.this with
    stamps := world.stamps + 1 }.report .createdManager).modifyPolicy policy
      fun current => { current with manager := ⟨some ⟨world.stamps, found.this⟩⟩ }

/-- A policy with a trust manager in its cell asks nobody. -/
theorem trustManager_of_slot_eq_some
    (cached : (world.policies.get policy).manager.slot = some manager) :
    world.trustManager policy = (.ok manager, world) := by
  have cell : (world.policies.get policy).manager = ⟨some manager⟩ := by
    rw [← cached]
  have unchanged : (world.modifyPolicy policy fun current =>
      { current with manager := ⟨some manager⟩ }) = world := by
    rw [modifyPolicy, Arena.modify_eq_self]
    rw [← cell]
  rw [trustManager, cell, CacheCell.getOrTryInit_populated]
  exact congrArg (Prod.mk (Except.ok manager)) unchanged

/-- A granted request fills the cell that it was made for. -/
theorem trustManager_of_createManager_ok
    {next : World}
    (unfilled : (world.policies.get policy).manager.slot = none)
    (creates :
      createManager (world.policies.get policy).factory (world.policies.get policy).this world =
        (.ok manager, next)) :
    world.trustManager policy =
      (.ok manager, next.modifyPolicy policy fun current =>
        { current with manager := ⟨some manager⟩ }) := by
  rw [trustManager, CacheCell.getOrTryInit_of_ok (CacheCell.isPopulated_of_slot_eq_none unfilled) creates]

/-- A refused request leaves the cell empty. -/
theorem trustManager_of_createManager_error
    {next : World}
    {error : PolicyError}
    (unfilled : (world.policies.get policy).manager.slot = none)
    (refuses :
      createManager (world.policies.get policy).factory (world.policies.get policy).this world =
        (.error error, next))
    (samePolicies : next.policies = world.policies) :
    world.trustManager policy = (.error error, next) := by
  have unchanged : (next.modifyPolicy policy fun current =>
      { current with manager := (world.policies.get policy).manager }) = next := by
    rw [modifyPolicy, Arena.modify_eq_self]
    rw [samePolicies]
  rw [trustManager,
    CacheCell.getOrTryInit_of_error (CacheCell.isPopulated_of_slot_eq_none unfilled) refuses]
  exact congrArg (Prod.mk (Except.error error)) unchanged

/-- All that a request for a policy's trust manager can do. -/
theorem trustManager_cases
    (world : World)
    (policy : PolicyId) :
    (∃ manager, (world.policies.get policy).manager.slot = some manager ∧
      world.trustManager policy = (.ok manager, world)) ∨
    (world.policies.get policy).manager.slot = none ∧
      ((∀ factory, (world.policies.get policy).factory = some factory →
          (world.factories.get factory).failing = false) ∧
        world.trustManager policy =
          (.ok ⟨world.stamps, (world.policies.get policy).this⟩, world.granted policy) ∨
      ∃ factory, (world.policies.get policy).factory = some factory ∧
        (world.factories.get factory).failing = true ∧
        world.trustManager policy =
          (.error (.trustManager "factory unavailable"),
            world.requested (some factory) (world.policies.get policy).this)) := by
  let this := (world.policies.get policy).this
  cases cached : (world.policies.get policy).manager.slot with
  | some manager => exact .inl ⟨manager, rfl, trustManager_of_slot_eq_some cached⟩
  | none =>
      refine .inr ⟨rfl, ?_⟩
      cases factory : (world.policies.get policy).factory with
      | none =>
          refine .inl ⟨by simp, ?_⟩
          rw [trustManager_of_createManager_ok cached (by rw [factory]; rfl), granted, factory]
          rfl
      | some id =>
          cases failing : (world.factories.get id).failing with
          | false =>
              refine .inl ⟨by simp [failing], ?_⟩
              have creates : createManager (some id) this world =
                  (.ok ⟨world.stamps, this⟩,
                    { world.requested (some id) this with
                      stamps := world.stamps + 1 }.report .createdManager) := by
                simp only [createManager, requestManager, failing]
                rfl
              rw [trustManager_of_createManager_ok cached (factory ▸ creates), granted, factory]
          | true =>
              refine .inr ⟨id, rfl, failing, ?_⟩
              have refuses : createManager (some id) this world =
                  (.error (.trustManager "factory unavailable"),
                    world.requested (some id) this) := by
                simp only [createManager, requestManager, failing]
                rfl
              exact trustManager_of_createManager_error cached (factory ▸ refuses) rfl

theorem requested_eq
    (factory : Option FactoryId) :
    world.requested factory policy =
      { world with factories := (world.requested factory policy).factories } := by
  cases factory <;> rfl

/-- A granted request changes no policy but the one it was made for. -/
theorem policies_granted :
    (world.granted policy).policies = world.policies.modify policy fun current =>
      { current with
        manager := ⟨some ⟨world.stamps, (world.policies.get policy).this⟩⟩ } := by
  rw [granted]
  dsimp only
  rw [requested_eq]
  rfl

/-- A request changes nothing but factories, stamps, and the trust manager of the
policy, and reports. -/
theorem exists_trustManager_snd_eq
    (world : World)
    (policy : PolicyId) :
    ∃ factories cell stamps events, world.stamps ≤ stamps ∧
      (world.trustManager policy).2 =
        { world with
          factories := factories
          policies := world.policies.modify policy fun current => { current with manager := cell }
          stamps := stamps
          events := events } := by
  have unchanged : (world.policies.modify policy fun current =>
      { current with manager := (world.policies.get policy).manager }) = world.policies :=
    Arena.modify_eq_self rfl
  rcases world.trustManager_cases policy with
    ⟨_, _, answer⟩ | ⟨_, ⟨_, answer⟩ | ⟨factory, _, _, answer⟩⟩
  · refine ⟨world.factories, (world.policies.get policy).manager, world.stamps, world.events,
      Nat.le_refl _, ?_⟩
    rw [answer, unchanged]
  · rw [granted] at answer
    dsimp only at answer
    rw [requested_eq] at answer
    exact ⟨_, _, _, _, Nat.le_succ _, congrArg Prod.snd answer⟩
  · refine ⟨(world.requested (some factory) (world.policies.get policy).this).factories,
      (world.policies.get policy).manager, world.stamps, world.events, Nat.le_refl _, ?_⟩
    rw [answer, unchanged, requested_eq]

end Requests

end World
end TrustPolicy
