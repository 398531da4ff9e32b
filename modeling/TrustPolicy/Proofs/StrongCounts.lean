import TrustPolicy.Proofs.Calls

/-!
# The strong references to a policy

Names hold strong references to policies, and so does the slot for the default policy.
While a call is carried out, it may have references in hand that it has built or upgraded,
until it gives them to a name or drops them. Nothing else holds any, so the count of a
policy is the number of these holders. Between calls nobody has a reference in hand.
-/

namespace TrustPolicy
namespace World

/-- The number of strong references to a policy that names and the slot for the default
policy hold. -/
def holders
    (world : World)
    (policy : PolicyId) : Nat :=
  world.owners.countOf policy + world.defaultPolicy.toList.count policy

/-- Whether all strong references are held by names, by the slot for the default policy,
or in hand. -/
structure IsCounted
    (world : World)
    (inHand : List StrongPolicy) : Prop where
  distinct : world.owners.HasDistinctNames
  /-- All policies are counted, and nothing else is. -/
  sameFresh : world.strongCounts.fresh = world.policies.fresh
  counts : ∀ policy,
    world.strongCounts.get policy = world.holders policy + inHand.count policy

theorem isCounted_initial : initial.IsCounted [] where
  distinct := Bindings.hasDistinctNames_empty
  sameFresh := rfl
  counts _ := rfl

namespace IsCounted

section Counted

variable
  {world next : World}
  {policy : PolicyId}
  {inHand : List StrongPolicy}
  {name : String}

/-! ## Living policies -/

/-- A policy is alive if someone holds it. -/
theorem isAlive_iff
    (counted : world.IsCounted []) :
    world.isAlive policy = true ↔
      world.owners.binds policy = true ∨ world.defaultPolicy = some policy := by
  rw [World.isAlive_iff, counted.counts, holders, List.count_nil, Nat.add_zero,
    Nat.add_pos_iff_pos_or_pos, Bindings.countOf_pos_iff, List.count_pos_iff, Option.mem_toList]

/-- A policy that a name holds is alive. -/
theorem isAlive_of_find?
    (counted : world.IsCounted [])
    (owned : world.owners.find? name = some policy) :
    world.isAlive policy = true :=
  counted.isAlive_iff.2 (.inl (Bindings.binds_of_find?_eq_some owned))

/-- Only policies that have been built are alive. -/
theorem holds
    (counted : world.IsCounted inHand)
    (alive : world.isAlive policy = true) :
    world.policies.Holds policy :=
  (Arena.holds_iff_of_fresh_eq counted.sameFresh).1 (strongCounts_holds_of_isAlive alive)

/-- The default policy has been built. -/
theorem holds_default
    (counted : world.IsCounted inHand)
    (installed : world.defaultPolicy = some policy) :
    world.policies.Holds policy := by
  refine counted.holds (World.isAlive_iff.2 ?_)
  have held : 0 < world.defaultPolicy.toList.count policy :=
    List.count_pos_iff.2 (Option.mem_toList.2 installed)
  rw [counted.counts, holders]
  omega

/-! ## Single references -/

/-- What leaves references and their holders alone leaves them counted. -/
theorem of_same
    (counted : world.IsCounted inHand)
    (counts : next.strongCounts = world.strongCounts)
    (owners : next.owners = world.owners)
    (slot : next.defaultPolicy = world.defaultPolicy)
    (fresh : next.policies.fresh = world.policies.fresh) :
    next.IsCounted inHand where
  distinct := owners ▸ counted.distinct
  sameFresh := by rw [counts, fresh, counted.sameFresh]
  counts policy := by rw [counts, holders, owners, slot, ← holders, counted.counts]

theorem report
    (counted : world.IsCounted inHand)
    (event : Event) :
    (world.report event).IsCounted inHand :=
  counted.of_same rfl rfl rfl rfl

theorem invalidateAnchors
    (counted : world.IsCounted inHand)
    (dropped : PolicyId) :
    (world.invalidateAnchors dropped).IsCounted inHand := by
  rw [invalidateAnchors_eq]
  exact counted.of_same rfl rfl rfl Arena.fresh_modify

theorem invalidateEach
    (counted : world.IsCounted inHand)
    (policies : List PolicyId) :
    (policies.foldl World.invalidateAnchors world).IsCounted inHand := by
  induction policies generalizing world with
  | nil => exact counted
  | cons dropped rest inductionHypothesis =>
      exact inductionHypothesis (counted.invalidateAnchors dropped)

theorem of_perm
    {others : List StrongPolicy}
    (counted : world.IsCounted inHand)
    (perm : inHand.Perm others) :
    world.IsCounted others where
  distinct := counted.distinct
  sameFresh := counted.sameFresh
  counts policy := by rw [counted.counts, perm.count_eq]

/-- A reference that is made is in hand. -/
theorem retain
    (counted : world.IsCounted inHand)
    (held : world.policies.Holds policy) :
    (world.retain policy).IsCounted (policy :: inHand) where
  distinct := counted.distinct
  sameFresh := Arena.fresh_modify.trans counted.sameFresh
  counts other := by
    have isCounted : world.strongCounts.Holds policy :=
      (Arena.holds_iff_of_fresh_eq counted.sameFresh).2 held
    have before := counted.counts other
    rw [World.retain]
    by_cases same : other = policy
    · subst same
      rw [Arena.get_modify_self isCounted, before, List.count_cons_self]
      rfl
    · rw [Arena.get_modify_of_ne same, before, List.count_cons_of_ne (Ne.symm same)]
      rfl

/-- A reference that was in hand is dropped. -/
theorem release
    (counted : world.IsCounted (policy :: inHand)) :
    (world.release policy).IsCounted inHand where
  distinct := counted.distinct
  sameFresh := Arena.fresh_modify.trans counted.sameFresh
  counts other := by
    have before := counted.counts other
    have after : (world.release policy).strongCounts.get other =
        if other = policy then world.strongCounts.get other - 1
        else world.strongCounts.get other := Arena.get_modify rfl
    rw [after, before]
    by_cases same : other = policy
    · subst same
      rw [if_pos rfl, List.count_cons_self]
      rfl
    · rw [if_neg same, List.count_cons_of_ne (Ne.symm same)]
      rfl

theorem releaseAll
    {policies : List StrongPolicy}
    (counted : world.IsCounted (policies ++ inHand)) :
    (world.releaseAll policies).IsCounted inHand := by
  induction policies generalizing world with
  | nil => exact counted
  | cons policy rest inductionHypothesis => exact inductionHypothesis counted.release

/-- What is upgraded is in hand. -/
theorem upgradeAll
    (counted : world.IsCounted inHand)
    (weak : List WeakPolicy) :
    (world.upgradeAll weak).2.IsCounted ((world.upgradeAll weak).1 ++ inHand) := by
  induction weak generalizing world inHand with
  | nil => exact counted
  | cons policy rest inductionHypothesis =>
      rw [World.upgradeAll]
      cases alive : world.isAlive policy with
      | false =>
          rw [upgrade_of_dead alive]
          exact inductionHypothesis counted
      | true =>
          rw [upgrade_of_alive alive]
          exact (inductionHypothesis (counted.retain (counted.holds alive))).of_perm
            List.perm_middle

/-! ## Holders -/

/-- A policy that is built is in hand. -/
theorem buildPolicy
    (counted : world.IsCounted inHand)
    (settings : Settings)
    (factory : Option FactoryId) :
    (world.buildPolicy settings factory).IsCounted (world.policies.fresh :: inHand) where
  distinct := counted.distinct
  sameFresh := Arena.fresh_add_eq_fresh_add counted.sameFresh
  counts other := by
    have before := counted.counts other
    have after : (world.buildPolicy settings factory).strongCounts.get other =
        if other = world.strongCounts.fresh then 1 else world.strongCounts.get other :=
      Arena.get_add
    rw [after, counted.sameFresh]
    by_cases same : other = world.policies.fresh
    · -- Nobody has held the new policy so far.
      have none : world.strongCounts.get other = 0 := by
        refine Arena.get_of_not_holds ?_
        rw [same, ← counted.sameFresh]
        exact Arena.not_holds_fresh
      rw [none] at before
      rw [if_pos same, same, List.count_cons_self, ← same, ← Nat.add_assoc]
      exact congrArg (· + 1) before
    · rw [if_neg same, before, List.count_cons_of_ne (Ne.symm same)]
      rfl

/-- The slot for the default policy takes what was in hand. -/
theorem install
    (counted : world.IsCounted (policy :: inHand))
    (vacant : world.defaultPolicy = none) :
    { world with defaultPolicy := some policy }.IsCounted inHand where
  distinct := counted.distinct
  sameFresh := counted.sameFresh
  counts other := by
    rw [counted.counts, holders, holders, vacant, List.count_cons]
    simp [List.count_singleton]
    omega

/-- What a name holds is taken from it. -/
theorem unbind
    (counted : world.IsCounted inHand)
    (name : String) :
    { world with owners := world.owners.erase name }.IsCounted
      ((world.owners.find? name).toList ++ inHand) where
  distinct := counted.distinct.erase
  sameFresh := counted.sameFresh
  counts other := by
    have erased : world.owners.countOf other =
        (world.owners.erase name).countOf other + (world.owners.find? name).toList.count other :=
      counted.distinct.countOf_erase
    rw [counted.counts, holders, holders, erased, List.count_append]
    dsimp only
    omega

/-- What was in hand is given to a name that holds nothing. -/
theorem give
    (counted : world.IsCounted (policy :: inHand))
    (unbound : world.owners.find? name = none) :
    { world with owners := world.owners.assign name policy }.IsCounted inHand where
  distinct := counted.distinct.assign
  sameFresh := counted.sameFresh
  counts other := by
    have erased : world.owners.countOf other = (world.owners.erase name).countOf other := by
      rw [counted.distinct.countOf_erase, unbound]
      rfl
    rw [counted.counts, holders, holders, Bindings.countOf_assign, erased, List.count_cons,
      List.count_singleton]
    dsimp only
    omega

/-- A name drops what it holds. -/
theorem disown
    (counted : world.IsCounted inHand)
    (name : String) :
    (world.disown name).IsCounted inHand := by
  have dropped : world.disown name =
      { world with owners := world.owners.erase name }.releaseAll
        (world.owners.find? name).toList := by
    rw [World.disown, vacate]
    cases world.owners.find? name <;> rfl
  rw [dropped]
  exact (counted.unbind name).releaseAll

/-- A name takes what was in hand, and drops what it held. -/
theorem own
    (counted : world.IsCounted (policy :: inHand)) :
    (world.own name policy).IsCounted inHand := by
  have taken : world.own name policy =
      { world.disown name with
        owners := (world.disown name).owners.assign name policy } := by
    rw [World.own, World.disown, Bindings.assign_erase]
  rw [taken]
  exact (counted.disown name).give Bindings.find?_erase_self

/-! ## Calls -/

/-- A trust manager holds its policy while it reads the anchors, and nothing after that. -/
theorem acceptedIssuers
    {manager : TrustManager}
    (counted : world.IsCounted []) :
    (world.acceptedIssuers manager).2.IsCounted [] := by
  rw [World.acceptedIssuers, boundPolicy]
  cases alive : world.isAlive manager.policy with
  | false =>
      rw [upgrade_of_dead alive]
      exact counted
  | true =>
      rw [upgrade_of_alive alive]
      have upgraded := counted.retain (counted.holds alive)
      obtain ⟨_, _, _, _, _, after⟩ :=
        (world.retain manager.policy).exists_trustAnchors_snd_eq manager.policy
      refine (upgraded.of_same ?_ ?_ ?_ ?_).release <;> rw [after]
      exact Arena.fresh_modify

/-- An announcement holds the policies that it invalidates, and nothing after that. -/
theorem announce
    {notifier : Notifier}
    (counted : world.IsCounted []) :
    (world.announce notifier).2.2.IsCounted [] := by
  have told : (notifier.sources.foldl announceTo world).IsCounted [] := by
    rw [foldl_announceTo_eq]
    exact counted.of_same rfl rfl rfl rfl
  have upgraded := told.upgradeAll
    (notifier.prune (notifier.sources.foldl announceTo world)).policies
  rw [World.announce, announceBy, invalidateRegistered]
  exact ((upgraded.invalidateEach _).report _).releaseAll

/-- Whatever a call makes of names and references, nobody has one in hand after it. -/
theorem perform
    (counted : world.IsCounted [])
    (call : Call) :
    (world.perform call).IsCounted [] := by
  cases call with
  | trustAnchors read =>
      obtain ⟨_, _, _, _, _, after⟩ := world.exists_trustAnchors_snd_eq read
      rw [World.perform, after]
      exact counted.of_same rfl rfl rfl Arena.fresh_modify
  | acceptedIssuers manager => exact counted.acceptedIssuers
  | trustManager asked =>
      obtain ⟨_, _, _, _, _, after⟩ := world.exists_trustManager_snd_eq asked
      rw [World.perform, after]
      exact counted.of_same rfl rfl rfl Arena.fresh_modify
  | invalidateAnchors dropped => exact counted.invalidateAnchors dropped
  | announce notifier => exact counted.announce
  | buildChain name chain factory => exact (counted.buildPolicy _ factory).own
  | installDefault name sources =>
      rw [perform_installDefault]
      split
      case h_1 => exact counted
      case h_2 vacant =>
        have installed := (counted.buildPolicy (Settings.ofChain [sources.builder]) none).install
          vacant
        exact ((installed.report _).retain (Arena.holds_add.2 (.inr rfl))).own
  | ownDefault name =>
      cases installed : world.defaultPolicy with
      | none =>
          rw [perform_ownDefault_of_eq_none installed]
          exact counted
      | some policy =>
          rw [perform_ownDefault_of_eq_some installed]
          exact (counted.retain (counted.holds_default installed)).own
  | disown name => exact counted.disown name
  | _ => exact counted.of_same rfl rfl rfl rfl

theorem performAll
    {calls : List Call}
    (counted : world.IsCounted []) :
    (world.performAll calls).IsCounted [] :=
  performAll_induction (motive := fun later => later.IsCounted []) counted
    fun _ call _ before => before.perform call

end Counted

end IsCounted

end World
end TrustPolicy
