import TrustPolicy.Proofs.Announcing
import TrustPolicy.Proofs.Contributions
import TrustPolicy.Proofs.Requests
import TrustPolicy.World.DefaultPolicy

/-!
# Calls on worlds

The objects of a world are used by calls, each of which takes effect at once,
whoever makes it. A call reads the anchors of a policy, or drops them, or leaves
them alone. Only reads that find an empty cell and direct queries query sources.
-/

namespace TrustPolicy

/-- A change of what a source supplies, which keeps its count of queries. -/
structure Source.Change where
  apply : Source → Source
  queryCount?_apply : ∀ source, (apply source).queryCount? = source.queryCount?

namespace World

/-- A call on the shared objects of a world. -/
inductive Call
  | trustAnchors (policy : PolicyId)
  | acceptedIssuers (manager : TrustManager)
  | trustManager (policy : PolicyId)
  /-- Bind a trust manager to a policy without asking the policy. -/
  | bindManager (policy : PolicyId)
  | invalidateAnchors (policy : PolicyId)
  | announce (notifier : Notifier)
  | querySource (source : SourceId)
  | addSource (source : Source)
  | changeSource (source : SourceId) (change : Source.Change)
  | addFactory
  | setFailing (factory : FactoryId) (failing : Bool)
  /-- Build the policy that a chain of builders resolves to, and let a name own it. -/
  | buildChain (name : String) (chain : List Builder) (factory : Option FactoryId)
  /-- Install the default policy, and let a name own it as well. -/
  | installDefault (name : String) (sources : DefaultSources)
  /-- Let a name own the default policy, if there is one. -/
  | ownDefault (name : String)
  | disown (name : String)
  | forgetEvents

/-- The world after a call. -/
def perform (world : World) : Call → World
  | .trustAnchors policy => (world.trustAnchors policy).2
  | .acceptedIssuers manager => (world.acceptedIssuers manager).2
  | .trustManager policy => (world.trustManager policy).2
  | .bindManager policy => (world.stampManager policy).2
  | .invalidateAnchors policy => world.invalidateAnchors policy
  | .announce notifier => (world.announce notifier).2.2
  | .querySource source => (world.querySource source).2
  | .addSource source => { world with sources := world.sources.add source }
  | .changeSource source change => world.modifySource source change.apply
  | .addFactory => { world with factories := world.factories.add {} }
  | .setFailing factory failing =>
      world.modifyFactory factory fun current => { current with failing := failing }
  | .buildChain name chain factory =>
      (world.buildChain chain factory).2.own name (world.buildChain chain factory).1
  | .installDefault name sources =>
      match world.installDefault sources with
      | (.error _, next) => next
      | (.ok policy, next) => next.own name policy
  | .ownDefault name =>
      match world.takeDefault with
      | (none, next) => next
      | (some policy, next) => next.own name policy
  | .disown name => world.disown name
  | .forgetEvents => { world with events := [] }

/-- The world after calls in order. -/
def performAll
    (world : World)
    (calls : List Call) : World :=
  calls.foldl perform world

/-- What each call keeps is kept by all of them in order. -/
theorem performAll_induction
    {motive : World → Prop}
    {world : World}
    {calls : List Call}
    (initially : motive world)
    (kept : ∀ before call, call ∈ calls → motive before → motive (before.perform call)) :
    motive (world.performAll calls) :=
  List.foldlRecOn calls perform initially fun before holds call present =>
    kept before call present holds

namespace Call

/-- Whether a call reads the anchors of a policy. A trust manager reads those of
the policy that it is bound to, while this one is alive. -/
def Reads
    (world : World)
    (policy : PolicyId) : Call → Prop
  | .trustAnchors read => read = policy
  | .acceptedIssuers manager => manager.policy = policy ∧ world.isAlive policy = true
  | _ => False

instance
    (world : World)
    (policy : PolicyId) : DecidablePred (Reads world policy)
  | .trustAnchors read => inferInstanceAs (Decidable (read = policy))
  | .acceptedIssuers manager =>
      inferInstanceAs (Decidable (manager.policy = policy ∧ world.isAlive policy = true))
  | .trustManager _ | .bindManager _ | .invalidateAnchors _ | .announce _ | .querySource _
  | .addSource _ | .changeSource _ _ | .addFactory | .setFailing _ _ | .buildChain _ _ _
  | .installDefault _ _ | .ownDefault _ | .disown _ | .forgetEvents => isFalse id

/-- Whether a call drops the anchors of a policy. A notifier drops those of its
living policies. -/
def Invalidates
    (world : World)
    (policy : PolicyId) : Call → Prop
  | .invalidateAnchors dropped => dropped = policy
  | .announce notifier => policy ∈ notifier.policies ∧ world.isAlive policy = true
  | _ => False

instance
    (world : World)
    (policy : PolicyId) : DecidablePred (Invalidates world policy)
  | .invalidateAnchors dropped => inferInstanceAs (Decidable (dropped = policy))
  | .announce notifier =>
      inferInstanceAs (Decidable (policy ∈ notifier.policies ∧ world.isAlive policy = true))
  | .trustAnchors _ | .acceptedIssuers _ | .trustManager _ | .bindManager _ | .querySource _
  | .addSource _ | .changeSource _ _ | .addFactory | .setFailing _ _ | .buildChain _ _ _
  | .installDefault _ _ | .ownDefault _ | .disown _ | .forgetEvents => isFalse id

/-- Whether a call may build a policy. -/
def MayBuild : Call → Prop
  | .buildChain _ _ _ => True
  | .installDefault _ _ => True
  | _ => False

end Call

/-- The sources that a call queries, in order. -/
def Call.queries (world : World) : Call → List SourceId
  | .trustAnchors policy => world.readQueries policy
  | .acceptedIssuers manager =>
      if world.isAlive manager.policy then world.readQueries manager.policy else []
  | .querySource source => [source]
  | _ => []

section Calls

variable
  {world : World}
  {policy other : PolicyId}
  {source : SourceId}
  {call : Call}

/-! ## Reads -/

/-- The trust manager of a living policy reads the anchors of the policy. It holds the
policy meanwhile, and lets go of it. -/
theorem acceptedIssuers_of_alive
    {manager : TrustManager}
    (alive : world.isAlive manager.policy = true) :
    world.acceptedIssuers manager =
      ((world.trustAnchors manager.policy).1.map fun snapshot => snapshot.anchors.certificates,
        (world.trustAnchors manager.policy).2) := by
  rw [acceptedIssuers, boundPolicy, upgrade_of_alive alive]
  dsimp only
  rw [trustAnchors_retain, release_retain]

/-- The trust manager of a dead policy fails, and touches nothing. -/
theorem acceptedIssuers_of_dead
    {manager : TrustManager}
    (dead : world.isAlive manager.policy = false) :
    world.acceptedIssuers manager =
      (.error (.trustManager "the bound policy has been dropped"), world) := by
  rw [acceptedIssuers, boundPolicy, upgrade_of_dead dead]

/-- Whoever reads the anchors of a policy leaves the same world. -/
theorem perform_of_reads
    (reads : call.Reads world policy) :
    world.perform call = (world.trustAnchors policy).2 := by
  cases call with
  | trustAnchors read =>
      obtain rfl : read = policy := reads
      rfl
  | acceptedIssuers manager =>
      obtain ⟨rfl, alive⟩ := reads
      rw [perform, acceptedIssuers_of_alive alive]
  | _ => exact reads.elim

theorem queries_of_reads
    (reads : call.Reads world policy) :
    call.queries world = world.readQueries policy := by
  cases call with
  | trustAnchors read =>
      obtain rfl : read = policy := reads
      rfl
  | acceptedIssuers manager =>
      obtain ⟨rfl, alive⟩ := reads
      exact if_pos alive
  | _ => exact reads.elim

/-- A trust manager reads the anchors of its policy, or does nothing if this one
is gone. -/
theorem perform_acceptedIssuers
    (manager : TrustManager) :
    world.perform (.acceptedIssuers manager) =
      if world.isAlive manager.policy = true then world.perform (.trustAnchors manager.policy)
      else world := by
  split
  case isTrue alive => exact congrArg Prod.snd (acceptedIssuers_of_alive alive)
  case isFalse dead =>
    exact congrArg Prod.snd (acceptedIssuers_of_dead (eq_false_of_ne_true dead))

/-- The default policy is built if there is none yet. -/
theorem perform_installDefault
    (name : String)
    (sources : DefaultSources) :
    world.perform (.installDefault name sources) =
      match world.defaultPolicy with
      | some _ => world
      | none =>
          ((({ (world.buildChain [sources.builder] none).2 with
            defaultPolicy := some world.policies.fresh }.report
              (.installedDefault (world.label sources.system) (world.label sources.user))).retain
                world.policies.fresh).own name world.policies.fresh) := by
  rw [perform, installDefault]
  cases world.defaultPolicy <;> rfl

theorem perform_ownDefault_of_eq_none
    {name : String}
    (vacant : world.defaultPolicy = none) :
    world.perform (.ownDefault name) = world := by
  rw [perform, takeDefault, vacant]

/-- A name that takes the default policy holds one more reference to it. -/
theorem perform_ownDefault_of_eq_some
    {name : String}
    (installed : world.defaultPolicy = some policy) :
    world.perform (.ownDefault name) = (world.retain policy).own name policy := by
  rw [perform, takeDefault, installed]

theorem perform_ownDefault
    (name : String) :
    world.perform (.ownDefault name) =
      { world with
        strongCounts := (world.perform (.ownDefault name)).strongCounts
        owners := (world.perform (.ownDefault name)).owners } := by
  obtain ⟨_, _, _, _, _, installed, _, _⟩ := world
  cases installed <;> rfl

/-! ## Policies -/

/-- A call that builds no policy leaves those that were built. -/
theorem holds_perform_of_not_mayBuild
    (idle : ¬call.MayBuild) :
    (world.perform call).policies.Holds policy ↔ world.policies.Holds policy := by
  have afterRead (read : PolicyId) :
      (world.perform (.trustAnchors read)).policies.Holds policy ↔
        world.policies.Holds policy := by
    obtain ⟨_, _, _, _, _, after⟩ := world.exists_trustAnchors_snd_eq read
    rw [perform, after]
    exact Arena.holds_modify
  cases call with
  | trustAnchors read => exact afterRead read
  | acceptedIssuers manager =>
      rw [perform_acceptedIssuers]
      split
      · exact afterRead manager.policy
      · exact Iff.rfl
  | trustManager asked =>
      obtain ⟨_, _, _, _, _, after⟩ := world.exists_trustManager_snd_eq asked
      rw [perform, after]
      exact Arena.holds_modify
  | invalidateAnchors dropped =>
      rw [perform, invalidateAnchors_eq]
      exact Arena.holds_modify
  | announce notifier => exact holds_announce
  | buildChain _ _ _ | installDefault _ _ => exact absurd trivial idle
  | ownDefault name => rw [perform_ownDefault]
  | _ => exact Iff.rfl

/-- A policy that was built stays. -/
theorem holds_perform
    (held : world.policies.Holds policy) :
    (world.perform call).policies.Holds policy := by
  by_cases builds : call.MayBuild
  · cases call with
    | buildChain name chain factory => exact Arena.holds_add.2 (.inl held)
    | installDefault name sources =>
        rw [perform_installDefault]
        split
        · exact held
        · exact Arena.holds_add.2 (.inl held)
    | _ => exact builds.elim
  · exact (holds_perform_of_not_mayBuild builds).2 held

/-- A read changes nothing about the policy but its cell for anchors. -/
theorem get_perform_of_reads
    (held : world.policies.Holds policy)
    (reads : call.Reads world policy) :
    ∃ cell, (world.perform call).policies.get policy =
      { world.policies.get policy with anchors := cell } := by
  obtain ⟨_, cell, _, _, _, after⟩ := world.exists_trustAnchors_snd_eq policy
  rw [perform_of_reads reads, after]
  exact ⟨cell, Arena.get_modify_self held⟩

/-- An invalidation drops the anchors of the policy and changes nothing else about it. -/
theorem get_perform_of_invalidates
    (invalidates : call.Invalidates world policy) :
    (world.perform call).policies.get policy = (world.policies.get policy).emptied := by
  cases call with
  | invalidateAnchors dropped =>
      obtain rfl : dropped = policy := invalidates
      rw [perform, get_invalidateAnchors, if_pos rfl]
  | announce notifier => exact get_announce.trans (if_pos invalidates)
  | _ => exact invalidates.elim

/-- A call that neither reads nor drops the anchors of a policy, nor asks for its trust
manager, changes nothing about it. -/
theorem get_perform_of_untouched
    (held : world.policies.Holds policy)
    (notReads : ¬call.Reads world policy)
    (notInvalidates : ¬call.Invalidates world policy)
    (notAsks : call ≠ .trustManager policy) :
    (world.perform call).policies.get policy = world.policies.get policy := by
  have afterRead {read : PolicyId}
      (different : read ≠ policy) :
      (world.perform (.trustAnchors read)).policies.get policy = world.policies.get policy := by
    obtain ⟨_, _, _, _, _, after⟩ := world.exists_trustAnchors_snd_eq read
    rw [perform, after]
    exact Arena.get_modify_of_ne different.symm
  cases call with
  | trustAnchors read => exact afterRead notReads
  | acceptedIssuers manager =>
      rw [perform_acceptedIssuers]
      split
      case isTrue alive => exact afterRead fun same => notReads ⟨same, same ▸ alive⟩
      case isFalse => rfl
  | trustManager asked =>
      have different : policy ≠ asked := fun same => notAsks (same ▸ rfl)
      obtain ⟨_, _, _, _, _, after⟩ := world.exists_trustManager_snd_eq asked
      rw [perform, after]
      exact Arena.get_modify_of_ne different
  | invalidateAnchors dropped =>
      rw [perform, get_invalidateAnchors, if_neg (Ne.symm notInvalidates)]
  | announce notifier => exact get_announce.trans (if_neg notInvalidates)
  | buildChain name chain factory => exact Arena.get_add_of_holds held
  | installDefault name sources =>
      rw [perform_installDefault]
      split
      · rfl
      · exact Arena.get_add_of_holds held
  | ownDefault name => rw [perform_ownDefault]
  | _ => rfl

/-- A request for the trust manager of a policy changes nothing else about it. -/
theorem get_perform_trustManager
    (held : world.policies.Holds policy) :
    ∃ cell, (world.perform (.trustManager policy)).policies.get policy =
      { world.policies.get policy with manager := cell } := by
  obtain ⟨_, cell, _, _, _, after⟩ := world.exists_trustManager_snd_eq policy
  rw [perform, after]
  exact ⟨cell, Arena.get_modify_self held⟩

/-- Any other call changes nothing about a policy but its trust manager. -/
theorem get_perform_of_neither
    (held : world.policies.Holds policy)
    (notReads : ¬call.Reads world policy)
    (notInvalidates : ¬call.Invalidates world policy) :
    ∃ cell, (world.perform call).policies.get policy =
      { world.policies.get policy with manager := cell } := by
  by_cases asks : call = .trustManager policy
  · rw [asks]
    exact get_perform_trustManager held
  · exact ⟨_, get_perform_of_untouched held notReads notInvalidates asks⟩

/-- Only requests for the trust manager of a policy change the cell for it. -/
theorem manager_perform_of_ne
    (held : world.policies.Holds policy)
    (notAsks : call ≠ .trustManager policy) :
    ((world.perform call).policies.get policy).manager =
      (world.policies.get policy).manager := by
  by_cases reads : call.Reads world policy
  · obtain ⟨cell, after⟩ := get_perform_of_reads held reads
    rw [after]
  · by_cases invalidates : call.Invalidates world policy
    · rw [get_perform_of_invalidates invalidates]
      rfl
    · rw [get_perform_of_untouched held reads invalidates notAsks]

/-- A call changes nothing about a policy that was built but what is in its cells. -/
theorem get_perform_eq
    (held : world.policies.Holds policy) :
    ∃ anchors manager, (world.perform call).policies.get policy =
      { world.policies.get policy with anchors := anchors, manager := manager } := by
  by_cases reads : call.Reads world policy
  · obtain ⟨cell, after⟩ := get_perform_of_reads held reads
    exact ⟨cell, _, after⟩
  · by_cases invalidates : call.Invalidates world policy
    · exact ⟨_, _, get_perform_of_invalidates invalidates⟩
    · obtain ⟨cell, after⟩ := get_perform_of_neither held reads invalidates
      exact ⟨_, cell, after⟩

/-- What a policy was built with stays. -/
theorem settings_and_factory_perform
    (held : world.policies.Holds policy) :
    ((world.perform call).policies.get policy).settings = (world.policies.get policy).settings ∧
      ((world.perform call).policies.get policy).factory =
        (world.policies.get policy).factory := by
  obtain ⟨_, _, after⟩ := get_perform_eq held
  exact after ▸ ⟨rfl, rfl⟩

/-- A policy that is not built yet has empty cells after the call, and knows itself if this
one has built it. -/
theorem get_perform_of_not_holds
    (call : Call)
    (unheld : ¬world.policies.Holds policy) :
    ∃ settings factory this,
      (world.perform call).policies.get policy = Policy.ofSettings settings factory this ∧
        ((world.perform call).policies.Holds policy → this = policy) := by
  have afterAdd {next : World} {settings : Settings} {factory : Option FactoryId}
      (added : next.policies =
        world.policies.add (Policy.ofSettings settings factory world.policies.fresh)) :
      ∃ settings factory this,
        next.policies.get policy = Policy.ofSettings settings factory this ∧
          (next.policies.Holds policy → this = policy) := by
    rw [added]
    by_cases fresh : policy = world.policies.fresh
    · subst fresh
      exact ⟨_, _, _, Arena.get_add_fresh, fun _ => rfl⟩
    · have stillUnheld :
          ¬(world.policies.add (Policy.ofSettings settings factory world.policies.fresh)).Holds
            policy := by
        intro held
        exact (Arena.holds_add.1 held).elim unheld fresh
      exact ⟨_, _, _, Arena.get_of_not_holds stillUnheld, fun held => absurd held stillUnheld⟩
  by_cases builds : call.MayBuild
  · cases call with
    | buildChain name chain factory => exact afterAdd rfl
    | installDefault name sources =>
        rw [perform_installDefault]
        split
        · exact ⟨_, _, _, Arena.get_of_not_holds unheld, fun held => absurd held unheld⟩
        · exact afterAdd rfl
    | _ => exact builds.elim
  · have stillUnheld : ¬(world.perform call).policies.Holds policy :=
      mt (holds_perform_of_not_mayBuild builds).1 unheld
    exact ⟨_, _, _, Arena.get_of_not_holds stillUnheld, fun held => absurd held stillUnheld⟩

/-- Whether each policy knows itself. -/
def KnowsItself (world : World) : Prop :=
  ∀ policy, world.policies.Holds policy → (world.policies.get policy).this = policy

theorem knowsItself_initial : initial.KnowsItself := fun _ held =>
  absurd held (Nat.not_lt_zero _)

theorem KnowsItself.perform
    (knows : world.KnowsItself) :
    (world.perform call).KnowsItself := by
  intro policy held
  by_cases heldBefore : world.policies.Holds policy
  · obtain ⟨_, _, after⟩ := get_perform_eq heldBefore
    rw [after]
    exact knows policy heldBefore
  · obtain ⟨_, _, this, built, same⟩ := get_perform_of_not_holds call heldBefore
    rw [built]
    exact same held

/-! ## Stamps and counts -/

/-- Stamps are given out in ascending order. -/
theorem stamps_le_perform : world.stamps ≤ (world.perform call).stamps := by
  have afterRead (read : PolicyId) :
      world.stamps ≤ (world.perform (.trustAnchors read)).stamps := by
    obtain ⟨_, _, _, _, le, after⟩ := world.exists_trustAnchors_snd_eq read
    rw [perform, after]
    exact le
  cases call with
  | trustAnchors read => exact afterRead read
  | acceptedIssuers manager =>
      rw [perform_acceptedIssuers]
      split
      · exact afterRead manager.policy
      · exact Nat.le_refl _
  | trustManager asked =>
      obtain ⟨_, _, _, _, le, after⟩ := world.exists_trustManager_snd_eq asked
      rw [perform, after]
      exact le
  | bindManager bound => exact Nat.le_succ _
  | invalidateAnchors dropped =>
      exact Nat.le_of_eq (by rw [perform, invalidateAnchors_eq])
  | announce notifier =>
      exact Nat.le_of_eq (by rw [perform, announce_snd_snd_eq])
  | installDefault name sources =>
      rw [perform_installDefault]
      split <;> exact Nat.le_refl _
  | ownDefault name =>
      exact Nat.le_of_eq (by rw [perform_ownDefault])
  | _ => exact Nat.le_refl _

/-- A source that was added stays. -/
theorem holds_source_perform
    (held : world.sources.Holds source) :
    (world.perform call).sources.Holds source := by
  have afterRead (read : PolicyId) :
      (world.perform (.trustAnchors read)).sources.Holds source := by
    rw [perform, sources_trustAnchors]
    exact holds_queryEach.2 held
  cases call with
  | trustAnchors read => exact afterRead read
  | acceptedIssuers manager =>
      rw [perform_acceptedIssuers]
      split
      · exact afterRead manager.policy
      · exact held
  | trustManager asked =>
      obtain ⟨_, _, _, _, _, after⟩ := world.exists_trustManager_snd_eq asked
      rw [perform, after]
      exact held
  | invalidateAnchors dropped =>
      rw [perform, invalidateAnchors_eq]
      exact held
  | announce notifier =>
      rw [perform, announce_snd_snd_eq]
      exact holds_source_foldl_announceTo.2 held
  | querySource queried => exact Arena.holds_modify.2 held
  | addSource added => exact Arena.holds_add.2 (.inl held)
  | changeSource changed change => exact Arena.holds_modify.2 held
  | installDefault name sources =>
      rw [perform_installDefault]
      split <;> exact held
  | ownDefault name =>
      rw [perform_ownDefault]
      exact held
  | _ => exact held

theorem queryCount?_foldl_announceTo {sources : List SourceId} :
    ((sources.foldl announceTo world).sources.get source).queryCount? =
      (world.sources.get source).queryCount? := by
  induction sources generalizing world with
  | nil => rfl
  | cons told rest inductionHypothesis =>
      rw [List.foldl_cons, inductionHypothesis, get_announceTo]
      split
      · exact Source.queryCount?_announced _ _
      · rfl

/-- The count of a source grows by the queries that the call makes, and by no other
ones. -/
theorem queryCount?_perform
    (held : world.sources.Holds source) :
    ((world.perform call).sources.get source).queryCount? =
      (world.sources.get source).queryCount?.map (· + (call.queries world).count source) := by
  have unchanged {next : World}
      (same : (next.sources.get source).queryCount? = (world.sources.get source).queryCount?) :
      (next.sources.get source).queryCount? =
        (world.sources.get source).queryCount?.map (· + ([] : List SourceId).count source) := by
    rw [same]
    simp
  have afterRead (read : PolicyId) :
      ((world.perform (.trustAnchors read)).sources.get source).queryCount? =
        (world.sources.get source).queryCount?.map
          (· + (world.readQueries read).count source) := by
    rw [perform, sources_trustAnchors]
    exact queryCount?_queryEach
  cases call with
  | trustAnchors read => exact afterRead read
  | acceptedIssuers manager =>
      rw [perform_acceptedIssuers, Call.queries]
      split
      · exact afterRead manager.policy
      · exact unchanged rfl
  | trustManager asked =>
      obtain ⟨_, _, _, _, _, after⟩ := world.exists_trustManager_snd_eq asked
      rw [perform, after]
      exact unchanged rfl
  | invalidateAnchors dropped =>
      rw [perform, invalidateAnchors_eq]
      exact unchanged rfl
  | announce notifier =>
      rw [perform, announce_snd_snd_eq]
      exact unchanged queryCount?_foldl_announceTo
  | querySource queried =>
      have asked : (world.querySource queried).2 = world.queryEach [queried] := rfl
      rw [perform, asked]
      exact queryCount?_queryEach
  | addSource added => exact unchanged (congrArg _ (Arena.get_add_of_holds held))
  | changeSource changed change =>
      refine unchanged ?_
      rcases world.sources.get_modify_cases source changed change.apply with same | applied
      · exact congrArg Source.queryCount? same
      · exact (congrArg Source.queryCount? applied).trans (change.queryCount?_apply _)
  | installDefault name sources =>
      rw [perform_installDefault]
      split <;> exact unchanged rfl
  | ownDefault name =>
      rw [perform_ownDefault]
      exact unchanged rfl
  | _ => exact unchanged rfl

end Calls

end World
end TrustPolicy
