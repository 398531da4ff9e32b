import TrustPolicy.Proofs.Notification
import TrustPolicy.Proofs.Owners
import TrustPolicy.Proofs.Views

/-!
# Observers of policies

Trust managers, notifiers, factories, watching sources, and policies themselves refer to
policies by weak references. In a run the strong references to a policy are those of the
names that own it and of the slot for the default policy; whoever upgrades a weak one drops
it again. So all that observers show of a policy agrees with whether it has an owner, and a
policy that has died never comes back.
-/

namespace TrustPolicy

/-! ## Factories and their notes -/

namespace World

/-- What holds of every world that calls lead to. -/
structure IsOrderly (world : World) : Prop where
  counted : world.IsCounted []
  knowsItself : world.KnowsItself
  /-- The default policy has no factory. -/
  standard : ∀ policy, world.defaultPolicy = some policy →
    (world.policies.get policy).factory = none
  /-- A factory has noted only policies that ask it. -/
  noted : ∀ factory policy, policy ∈ (world.factories.get factory).bound →
    (world.policies.get policy).factory = some factory

section Orderly

variable
  {world : World}
  {call : Call}
  {calls : List Call}
  {factory : FactoryId}
  {policy : PolicyId}

theorem isOrderly_initial : initial.IsOrderly where
  counted := isCounted_initial
  knowsItself := knowsItself_initial
  standard policy installed := absurd installed (by simp [initial])
  noted factory policy present := by
    have nothing : (initial.factories.get factory).bound = [] := rfl
    exact absurd (nothing ▸ present) List.not_mem_nil

/-- A policy with a factory has been built. -/
theorem holds_of_factory
    (uses : (world.policies.get policy).factory = some factory) :
    world.policies.Holds policy := by
  by_contra unheld
  rw [Arena.get_of_not_holds unheld] at uses
  exact absurd uses (by simp [default, Policy.ofSettings])

/-- A policy that a factory has noted after a call was noted before, or asks it. -/
theorem noted_perform
    (knows : world.KnowsItself)
    (present : policy ∈ ((world.perform call).factories.get factory).bound) :
    policy ∈ (world.factories.get factory).bound ∨
      (world.policies.get policy).factory = some factory := by
  have becomes := world.factoriesBecome_perform call
  generalize (world.perform call).factories = factories at becomes present
  cases becomes with
  | kept silent => exact .inl present
  | @noted _ asking asked uses asks =>
      rw [knows asking (holds_of_factory uses), requested, modifyFactory] at present
      dsimp only at present
      by_cases same : factory = asked
      case neg =>
        rw [Arena.get_modify_of_ne same] at present
        exact .inl present
      subst same
      rcases world.factories.get_modify_cases factory factory
          (fun current => current.requested asking) with unchanged | noted
      · exact .inl (unchanged ▸ present)
      · rw [noted] at present
        rcases List.mem_append.1 present with before | new
        · exact .inl before
        · obtain rfl := List.mem_singleton.1 new
          exact .inr uses
  | added =>
      by_cases held : world.factories.Holds factory
      · exact .inl (Arena.get_add_of_holds held ▸ present)
      · have nothing : ((world.factories.add {}).get factory).bound = [] := by
          by_cases fresh : factory = world.factories.fresh
          · rw [fresh, Arena.get_add_fresh]
          · rw [Arena.get_of_not_holds]
            · rfl
            · exact fun heldLater => (Arena.holds_add.1 heldLater).elim held fresh
        exact absurd (nothing ▸ present) List.not_mem_nil
  | told told failing =>
      rcases world.factories.get_modify_cases factory told
          (fun current => { current with failing := failing }) with same | changed
      · exact .inl (same ▸ present)
      · rw [changed] at present
        exact .inl present

/-- The policy that a call installs has no factory. -/
theorem standard_perform
    (orderly : world.IsOrderly)
    (installed : (world.perform call).defaultPolicy = some policy) :
    ((world.perform call).policies.get policy).factory = none := by
  have kept (before : world.defaultPolicy = some policy) :
      ((world.perform call).policies.get policy).factory = none := by
    have held := orderly.counted.holds_default before
    exact (settings_and_factory_perform held).2.trans (orderly.standard policy before)
  have becomes := world.ownersBecome_perform call
  generalize (world.perform call).owners = owners at becomes
  generalize (world.perform call).defaultPolicy = slot at becomes installed
  cases becomes with
  | installed name sources vacant =>
      obtain rfl := Option.some_inj.1 installed
      rw [perform_installDefault, vacant]
      exact congrArg Policy.factory Arena.get_add_fresh
  | _ => exact kept installed

theorem IsOrderly.perform
    (orderly : world.IsOrderly) :
    (world.perform call).IsOrderly where
  counted := orderly.counted.perform call
  knowsItself := orderly.knowsItself.perform
  standard policy := standard_perform orderly
  noted factory policy present := by
    have uses : (world.policies.get policy).factory = some factory := by
      rcases noted_perform orderly.knowsItself present with before | uses
      · exact orderly.noted factory policy before
      · exact uses
    exact (settings_and_factory_perform (holds_of_factory uses)).2.trans uses

theorem IsOrderly.performAll
    (orderly : world.IsOrderly) :
    (world.performAll calls).IsOrderly :=
  performAll_induction orderly fun _ _ _ => IsOrderly.perform

/-- A policy that a factory has noted is alive if a name owns it. -/
theorem IsOrderly.isAlive_of_noted
    (orderly : world.IsOrderly)
    (present : policy ∈ (world.factories.get factory).bound) :
    world.isAlive policy = world.owners.binds policy := by
  have uses := orderly.noted factory policy present
  have notStandard : world.defaultPolicy ≠ some policy := fun installed =>
    absurd ((orderly.standard policy installed).symm.trans uses) (by simp)
  rw [Bool.eq_iff_iff, orderly.counted.isAlive_iff]
  exact or_iff_left notStandard

end Orderly

end World

/-! ## What is seen of policies -/

namespace Session

/-- The error of a trust manager whose policy is gone. -/
def gone : PolicyError :=
  .trustManager "the bound policy has been dropped"

/-- Whether all that a session shows of policies agrees with a verdict on which of them
are alive. -/
structure SeenBy
    (session : Session)
    (verdict : PolicyId → Bool) : Prop where
  /-- A trust manager that a policy gave fails for want of its policy if this one is dead. -/
  managers : ∀ name manager, session.managers.find? name = some manager →
    ((session.step (.policy (.issuers name))).1 = .refused gone ↔
      verdict manager.policy = false)
  /-- So does one that was bound to a policy, which also tells whether its policy is there,
  and names it only then. -/
  direct : ∀ name manager, session.directManagers.find? name = some manager →
    ∃ shown issuers,
      (session.step (.policy (.viewManager name))).1 =
          .boundManager (verdict manager.policy) shown issuers ∧
        (shown.isSome = true → verdict manager.policy = true) ∧
        (issuers = .error gone ↔ verdict manager.policy = false)
  /-- A notifier counts the living policies among those that are registered. -/
  counted : ∀ name notifier, session.notifiers.find? name = some notifier →
    (session.step (.policy (.notifierStats name))).1 =
      .registrations notifier.policies.length (notifier.policies.countP verdict)
  /-- An announcement counts the same policies, drops the anchors of these alone, and
  keeps no other entries. -/
  announced : ∀ name notifier, session.notifiers.find? name = some notifier →
    (session.step (.policy (.announce name))).1 =
        .count (notifier.policies.countP verdict) ∧
      (session.step (.policy (.announce name))).2.notifiers.find? name =
        some { notifier with policies := notifier.policies.filter verdict } ∧
      ∀ policy, (session.step (.policy (.announce name))).2.world.policies.get policy =
        if policy ∈ notifier.policies ∧ verdict policy = true then
          (session.world.policies.get policy).emptied
        else session.world.policies.get policy
  /-- A factory shows a name for each living policy that it has noted. -/
  noted : ∀ name factory, session.factories.find? name = some factory →
    ∃ shown,
      (session.step (.policy (.factoryStats name))).1 =
          .factory (session.world.factories.get factory).requests shown ∧
        shown.map Option.isSome = (session.world.factories.get factory).bound.map verdict
  /-- A source sees the policies that it watches while they are alive. -/
  watched : ∀ policy, (session.world.lookAt policy).isSome = verdict policy

section Observers

variable
  {session : Session}
  {steps : List Step}
  {manager : TrustManager}
  {position : Nat}
  {policy : PolicyId}

/-- A trust manager fails for want of its policy if this one is dead. -/
theorem acceptedIssuers_eq_gone_iff :
    (session.world.acceptedIssuers manager).1 = .error gone ↔
      session.world.isAlive manager.policy = false := by
  constructor
  · intro answer
    rcases World.acceptedIssuers_error answer with ⟨dead, -⟩ | ⟨-, label, cause, same⟩
    · exact dead
    · exact absurd same (by simp [gone])
  · intro dead
    rw [World.acceptedIssuers_of_dead dead]
    rfl

theorem policyName?_eq :
    session.policyName? policy =
      if session.world.isAlive policy then session.world.owners.firstName? policy else none := by
  rw [policyName?, World.upgrade]
  split <;> rfl

/-- A trust manager that a session has bound itself tells whether its policy is there, which
it upgrades for this. -/
theorem step_viewManager
    {name : String}
    (bound : session.directManagers.find? name = some manager) :
    (session.step (.policy (.viewManager name))).1 =
      .boundManager (session.world.isAlive manager.policy)
        (session.policyName? manager.policy) (session.world.acceptedIssuers manager).1 := by
  rw [step_eq_settle, attempt, PolicyStep.run, settle_look_of_some bound,
    ← World.isSome_upgrade]
  rfl

/-- In an orderly world, all observers agree on which policies are alive. -/
theorem seenBy_isAlive
    (orderly : session.world.IsOrderly) :
    session.SeenBy session.world.isAlive where
  managers name manager bound := by
    rw [step_issuers bound, ← acceptedIssuers_eq_gone_iff]
    cases (session.world.acceptedIssuers manager).1 with
    | ok issuers => simp [answerOf]
    | error raised => simp [answerOf]
  direct name manager bound := by
    refine ⟨session.policyName? manager.policy, (session.world.acceptedIssuers manager).1, ?_, ?_,
      acceptedIssuers_eq_gone_iff⟩
    · exact step_viewManager bound
    · intro shown
      by_contra dead
      rw [policyName?_eq, if_neg dead] at shown
      exact absurd shown (by simp)
  counted name notifier bound := by
    rw [step_eq_settle, attempt, PolicyStep.run, settle_look_of_some bound,
      List.countP_eq_length_filter]
    rfl
  announced name notifier bound := by
    rw [step_announce bound, List.countP_eq_length_filter]
    refine ⟨?_, ?_, fun policy => World.get_announce⟩
    · rw [World.announce_eq]
      rfl
    · rw [Bindings.find?_assign_self, World.announce_snd_fst]
      rfl
  noted name factory bound := by
    refine ⟨(session.world.factories.get factory).bound.map session.policyName?, ?_, ?_⟩
    · rw [step_eq_settle, attempt, PolicyStep.run, settle_look_of_some bound]
      rfl
    · rw [List.map_map]
      refine List.map_congr_left fun policy present => ?_
      rw [Function.comp_apply, policyName?_eq, orderly.isAlive_of_noted present]
      split
      case isTrue owned => rw [Bindings.isSome_firstName?, owned]
      case isFalse unowned => exact (Bool.eq_false_of_not_eq_true unowned).symm
  watched policy := by
    rw [World.lookAt_eq]
    split
    case isTrue alive => exact alive.symm
    case isFalse dead => exact (Bool.eq_false_of_not_eq_true dead).symm

/-! ## Runs -/

theorem isOrderly_sessionAt : (sessionAt steps position).world.IsOrderly := by
  refine stateAt_of_le
    (motive := fun session : Session => session.world.IsOrderly)
    (Nat.zero_le position) World.isOrderly_initial ?_
  intro position step _ _ _ orderly
  rw [world_step]
  exact orderly.performAll

/-- The policies that are alive are those that live by what the run has done. -/
theorem isAlive_iff_lives :
    (sessionAt steps position).world.isAlive policy = true ↔ Lives steps position policy := by
  have counted : (sessionAt steps position).world.IsCounted [] := isOrderly_sessionAt.counted
  rw [counted.isAlive_iff, counted.distinct.binds_iff, Lives, installedBefore_iff]
  simp only [heldBy_iff]

/-- Between steps nobody has a strong reference in hand. -/
theorem strongCounts_sessionAt :
    (sessionAt steps position).world.strongCounts.get policy =
      (sessionAt steps position).world.holders policy :=
  isOrderly_sessionAt.counted.counts policy

end Observers

/-- What a run does with the lives of the policies that are built in it. -/
structure AgreesOnLives (steps : List Step) : Prop where
  /-- There are as many strong references to a policy as there are names that own it, and
  one more if it is the default policy. -/
  counted : ∀ position policy,
    (sessionAt steps position).world.strongCounts.get policy =
      (sessionAt steps position).world.holders policy
  /-- No name has two entries, so each entry that is counted is a name of its own. -/
  distinct : ∀ position, (sessionAt steps position).world.owners.HasDistinctNames
  /-- No step makes or drops a strong reference but those that give or take names. To make
  trust managers, registrations, notes, and sources that watch, or to use them, is none. -/
  inert : ∀ position step policy, steps[position]? = some step → step.owner? = none →
    (sessionAt steps (position + 1)).world.strongCounts.get policy =
      (sessionAt steps position).world.strongCounts.get policy
  /-- Observers that upgrade weak references hold strong ones to the living policies among
  them, which are counted, and leave the world as it was when they drop these. -/
  upgraded : ∀ position observed,
    ((sessionAt steps position).world.upgradeAll observed).1 =
        observed.filter (sessionAt steps position).world.isAlive ∧
      ((sessionAt steps position).world.upgradeAll observed).2.IsCounted
        ((sessionAt steps position).world.upgradeAll observed).1 ∧
      ((sessionAt steps position).world.upgradeAll observed).2.releaseAll
        ((sessionAt steps position).world.upgradeAll observed).1 =
          (sessionAt steps position).world
  /-- There are strong references to the policies that live, and to no other ones. -/
  alive : ∀ position policy,
    0 < (sessionAt steps position).world.strongCounts.get policy ↔ Lives steps position policy
  /-- A policy lives if a name owns it, or if it is the default policy. -/
  owned : ∀ position policy, Lives steps position policy ↔
    (∃ name, (sessionAt steps position).world.owners.find? name = some policy) ∨
      (sessionAt steps position).world.defaultPolicy = some policy
  /-- All observers agree on which policies live. -/
  observed : ∀ position, ∃ verdict : PolicyId → Bool,
    (∀ policy, verdict policy = true ↔ Lives steps position policy) ∧
      (sessionAt steps position).SeenBy verdict
  /-- A policy that has died stays dead. -/
  final : ∀ first last policy, first ≤ last →
    (sessionAt steps first).world.policies.Holds policy →
    ¬Lives steps first policy → ¬Lives steps last policy
  /-- A policy dies with the last name that holds it, whatever else refers to it, unless it
  is the default policy. -/
  released : ∀ position step name policy, steps[position]? = some step →
    (sessionAt steps position).Takes step name →
    (∀ other, HeldBy steps position other policy → other = name) →
    ¬InstalledBefore steps position policy →
    (∀ other, ¬(sessionAt steps position).Gives step other policy) →
    ¬Lives steps (position + 1) policy

/-- Whatever a run does, all observers agree on which policies are alive: those that a name
holds, and the default policy. -/
theorem agreesOnLives
    (steps : List Step) :
    AgreesOnLives steps where
  counted position policy := strongCounts_sessionAt
  distinct position := isOrderly_sessionAt.counted.distinct
  inert position step policy present idle := by
    rw [strongCounts_sessionAt, strongCounts_sessionAt, sessionAt_succ present, holders_step idle]
  upgraded position observed := by
    have orderly : (sessionAt steps position).world.IsOrderly := isOrderly_sessionAt
    have held := orderly.counted.upgradeAll observed
    rw [List.append_nil] at held
    refine ⟨?_, held, ?_⟩ <;> rw [World.upgradeAll_eq]
    exact World.releaseAll_foldl_retain
  alive position policy := World.isAlive_iff.symm.trans isAlive_iff_lives
  owned position policy := by
    rw [Lives, installedBefore_iff]
    simp only [heldBy_iff]
  observed position :=
    ⟨_, fun _ => isAlive_iff_lives, seenBy_isAlive isOrderly_sessionAt⟩
  final first last policy ordered held dead := by
    rw [← isAlive_iff_lives] at dead ⊢
    have kept : (sessionAt steps last).world.policies.Holds policy ∧
        ¬(sessionAt steps last).world.isAlive policy = true := by
      refine stateAt_of_le
        (motive := fun session : Session => session.world.policies.Holds policy ∧
          ¬session.world.isAlive policy = true) ordered ⟨held, dead⟩ ?_
      rintro position step - - - ⟨heldBefore, deadBefore⟩
      refine ⟨(kept_step heldBefore).1, fun alive => deadBefore ?_⟩
      rw [world_step] at alive
      exact World.isAlive_of_isAlive_performAll isOrderly_sessionAt.counted heldBefore alive
    exact kept.2
  released position step name policy present taken only notInstalled notGiven := by
    rintro (⟨other, held⟩ | installed)
    · rcases heldBy_succ_cases held with ⟨instead, found, gives⟩ | ⟨heldBefore, notTaken⟩
      · obtain rfl : step = instead := Option.some_inj.1 (present.symm.trans found)
        exact notGiven other gives
      · obtain rfl := only other heldBefore
        exact notTaken step present taken
    · rcases installedBefore_succ_cases installed with
        before | ⟨instead, owner, sources, found, planned, rfl⟩
      · exact notInstalled before
      · obtain rfl : step = instead := Option.some_inj.1 (present.symm.trans found)
        exact notGiven owner (.built planned rfl)

/-- A policy has a trust manager in its cell and another one that is bound to it, its
factory has noted it, it is registered with a notifier, and a source watches it. There is
one strong reference to it, which its name holds, and none when the name is dropped: then
all of them see it dead. There is one to the default policy for each of its names and one
for the slot, which keeps it alive. -/
theorem agreesOnLives_of_dropped_names :
    let steps : List Step :=
      [.source (.make "watcher" "watcher" .scripted []), .policy (.makeFactory "factory"),
        .builder (.make "builder" none []), .builder (.build "builder" "name" (some "factory")),
        .policy (.takeManager "name" "manager"), .policy (.bindManager "name" "direct"),
        .policy (.makeNotifier "notifier"), .policy (.registerPolicy "notifier" "name"),
        .source (.watch "watcher" "name"), .value (.makeDefaultSources "sources" none),
        .value (.installDefault "sources" "standard"), .value (.getDefault "again"),
        .policy (.drop "standard"), .policy (.drop "again"), .policy (.drop "name")]
    let count (position : Nat) (policy : PolicyId) : Nat :=
      (sessionAt steps position).world.strongCounts.get policy
    let session := sessionAt steps 15
    (count 4 ⟨0⟩, count 14 ⟨0⟩, count 15 ⟨0⟩) = (1, 1, 0) ∧
      (count 11 ⟨1⟩, count 12 ⟨1⟩, count 13 ⟨1⟩, count 15 ⟨1⟩) = (2, 3, 2, 1) ∧
      Lives steps 14 ⟨0⟩ ∧ ¬Lives steps 15 ⟨0⟩ ∧ Lives steps 15 ⟨1⟩ ∧
      (session.step (.policy (.issuers "manager"))).1 = .refused gone ∧
      (∃ shown issuers, (session.step (.policy (.viewManager "direct"))).1 =
        .boundManager false shown issuers) ∧
      (session.step (.policy (.notifierStats "notifier"))).1 = .registrations 1 0 ∧
      (session.step (.policy (.announce "notifier"))).1 = .count 0 ∧
      (session.step (.policy (.factoryStats "factory"))).1 = .factory 1 [none] ∧
      (session.world.lookAt ⟨0⟩).isSome = false := by
  intro steps count session
  have agrees := agreesOnLives steps
  have counts (position : Nat) (policy : PolicyId) :
      count position policy = (sessionAt steps position).world.holders policy :=
    agrees.counted position policy
  have dead : ¬Lives steps 15 ⟨0⟩ := by
    rw [← agrees.alive, agrees.counted]
    decide
  have alive (policy : PolicyId) (position : Nat)
      (held : 0 < (sessionAt steps position).world.holders policy) :
      Lives steps position policy := by
    rwa [← agrees.alive, agrees.counted]
  obtain ⟨verdict, tells, seen⟩ := agrees.observed 15
  have gone : verdict ⟨0⟩ = false := Bool.eq_false_of_not_eq_true (mt (tells ⟨0⟩).1 dead)
  refine ⟨?_, ?_, alive ⟨0⟩ 14 (by decide), dead, alive ⟨1⟩ 15 (by decide), ?_, ?_, ?_, ?_, ?_, ?_⟩
  · simp only [counts]
    decide
  · simp only [counts]
    decide
  · exact (seen.managers "manager" ⟨0, ⟨0⟩⟩ rfl).2 gone
  · obtain ⟨shown, issuers, answer, -⟩ := seen.direct "direct" ⟨1, ⟨0⟩⟩ rfl
    exact ⟨shown, issuers, answer.trans (by rw [gone])⟩
  · refine (seen.counted "notifier" ⟨[], [⟨0⟩]⟩ rfl).trans ?_
    simp [gone]
  · refine (seen.announced "notifier" ⟨[], [⟨0⟩]⟩ rfl).1.trans ?_
    simp [gone]
  · obtain ⟨shown, answer, named⟩ := seen.noted "factory" ⟨0⟩ rfl
    have nameless : shown.map Option.isSome = [false] := named.trans (congrArg (fun b => [b]) gone)
    obtain ⟨entry, rfl, unnamed⟩ := List.map_eq_singleton_iff.1 nameless
    obtain rfl : entry = none := Option.not_isSome_iff_eq_none.1 (by simp [unnamed])
    exact answer
  · exact (seen.watched ⟨0⟩).trans gone

end Session
end TrustPolicy
