import TrustPolicy.Proofs.StrongCounts

/-!
# Living policies

A policy is alive from the moment it is built as long as a name owns it or it is
the default policy. Once it is dead it stays dead, because only names that own it
and the slot for the default policy could hand it on.
-/

namespace TrustPolicy
namespace World

section Liveness

variable
  {world : World}
  {policy : PolicyId}
  {call : Call}

/-- What a call makes of the names that own policies, and of the slot for the default
policy. -/
inductive OwnersBecome (world : World) : Call → Bindings PolicyId → Option PolicyId → Prop
  | kept
      (call : Call) :
      OwnersBecome world call world.owners world.defaultPolicy
  | built
      (name : String)
      (chain : List Builder)
      (factory : Option FactoryId) :
      OwnersBecome world (.buildChain name chain factory)
        (world.owners.assign name world.policies.fresh) world.defaultPolicy
  | installed
      (name : String)
      (sources : DefaultSources)
      (vacant : world.defaultPolicy = none) :
      OwnersBecome world (.installDefault name sources)
        (world.owners.assign name world.policies.fresh) (some world.policies.fresh)
  | owned
      {policy : PolicyId}
      (name : String)
      (installed : world.defaultPolicy = some policy) :
      OwnersBecome world (.ownDefault name) (world.owners.assign name policy)
        world.defaultPolicy
  | disowned
      (name : String) :
      OwnersBecome world (.disown name) (world.owners.erase name) world.defaultPolicy

theorem ownersBecome_perform
    (call : Call) :
    world.OwnersBecome call (world.perform call).owners (world.perform call).defaultPolicy := by
  have afterRead (read : PolicyId) :
      world.OwnersBecome call (world.perform (.trustAnchors read)).owners
        (world.perform (.trustAnchors read)).defaultPolicy := by
    obtain ⟨_, _, _, _, _, after⟩ := world.exists_trustAnchors_snd_eq read
    rw [perform, after]
    exact .kept call
  cases call with
  | trustAnchors read => exact afterRead read
  | acceptedIssuers manager =>
      rw [perform_acceptedIssuers]
      split
      · exact afterRead manager.policy
      · exact .kept _
  | trustManager asked =>
      obtain ⟨_, _, _, _, _, after⟩ := world.exists_trustManager_snd_eq asked
      rw [perform, after]
      exact .kept _
  | invalidateAnchors dropped =>
      rw [perform, invalidateAnchors_eq]
      exact .kept _
  | announce notifier =>
      rw [perform, announce_snd_snd_eq]
      exact .kept _
  | buildChain name chain factory => exact .built name chain factory
  | installDefault name sources =>
      rw [perform_installDefault]
      split
      case h_1 => exact .kept _
      case h_2 vacant => exact .installed name sources vacant
  | ownDefault name =>
      cases installed : world.defaultPolicy with
      | none =>
          rw [perform_ownDefault_of_eq_none installed]
          exact .kept _
      | some policy =>
          rw [perform_ownDefault_of_eq_some installed]
          exact .owned name installed
  | disown name => exact .disowned name
  | _ => exact .kept _

/-- A call makes no policy alive but one that it builds. -/
theorem isAlive_perform
    (counted : world.IsCounted [])
    (alive : (world.perform call).isAlive policy = true) :
    world.isAlive policy = true ∨ policy = world.policies.fresh := by
  have becomes := world.ownersBecome_perform call
  have owned := (counted.perform call).isAlive_iff.1 alive
  generalize (world.perform call).owners = owners at becomes owned
  generalize (world.perform call).defaultPolicy = slot at becomes owned
  have wasBound (bound : world.owners.binds policy = true) : world.isAlive policy = true :=
    counted.isAlive_iff.2 (.inl bound)
  have wasInstalled (installed : world.defaultPolicy = some policy) :
      world.isAlive policy = true :=
    counted.isAlive_iff.2 (.inr installed)
  cases becomes with
  | kept => exact .inl (counted.isAlive_iff.2 owned)
  | built name chain factory =>
      rcases owned with bound | installed
      · exact (Bindings.binds_of_binds_assign bound).symm.imp wasBound id
      · exact .inl (wasInstalled installed)
  | installed name sources vacant =>
      rcases owned with bound | installed
      · exact (Bindings.binds_of_binds_assign bound).symm.imp wasBound id
      · exact .inr (Option.some_inj.1 installed).symm
  | owned name installed =>
      rcases owned with bound | same
      · rcases Bindings.binds_of_binds_assign bound with rfl | bound
        · exact .inl (wasInstalled installed)
        · exact .inl (wasBound bound)
      · exact .inl (wasInstalled same)
  | disowned name =>
      rcases owned with bound | installed
      · exact .inl (wasBound (Bindings.binds_of_binds_erase bound))
      · exact .inl (wasInstalled installed)

/-- A policy that is dead stays dead. -/
theorem isAlive_of_isAlive_perform
    (counted : world.IsCounted [])
    (held : world.policies.Holds policy)
    (alive : (world.perform call).isAlive policy = true) :
    world.isAlive policy = true := by
  rcases isAlive_perform counted alive with before | rfl
  · exact before
  · exact absurd held Arena.not_holds_fresh

/-! ## Runs of calls -/

variable {calls : List Call}

theorem holds_performAll
    (held : world.policies.Holds policy) :
    (world.performAll calls).policies.Holds policy :=
  performAll_induction (motive := fun later => later.policies.Holds policy) held
    fun _ _ _ => holds_perform

theorem isAlive_of_isAlive_performAll
    (counted : world.IsCounted [])
    (held : world.policies.Holds policy)
    (alive : (world.performAll calls).isAlive policy = true) :
    world.isAlive policy = true := by
  induction calls generalizing world with
  | nil => exact alive
  | cons call rest inductionHypothesis =>
      exact isAlive_of_isAlive_perform counted held
        (inductionHypothesis (counted.perform call) (holds_perform held) alive)

end Liveness

end World
end TrustPolicy
