import TrustPolicy.Proofs.Liveness
import TrustPolicy.Proofs.Resolution
import TrustPolicy.Proofs.Runs
import TrustPolicy.Proofs.SessionCalls

/-!
# Built policies

A policy is built from a builder by itself, from a builder of a set, or from the
builder of the default policy. It keeps the settings that these resolve to at that
moment, and its factory, whatever happens later. Policies share no cells, so a step
on one of them leaves all others as they are.
-/

namespace TrustPolicy

/-! ## Origins -/

/-- The settings that a set resolves a builder to, one effective value after another. -/
def BuilderSet.settings
    (set : BuilderSet)
    (id : BuilderId) : Except PolicyError Settings := do
  return ⟨← set.cleartext id, ← set.hsts id, ← set.pins id, ← set.entryRefs id⟩

/-- What a policy is built from. -/
inductive Origin
  /-- A builder by itself. -/
  | single (builder : Builder)
  /-- A builder of a set, its ancestors included. -/
  | member (set : BuilderSet) (id : BuilderId)
  /-- The builder of the default policy. -/
  | standard (sources : DefaultSources)

namespace Origin

/-- The settings that an origin resolves to. -/
def settings : Origin → Except PolicyError Settings
  | .single builder => .ok builder.settings
  | .member set id => set.settings id
  | .standard sources => .ok sources.builder.settings

end Origin

/-- A policy to build, and the name that will own it. -/
structure Plan where
  name : String
  origin : Origin
  factory : Option FactoryId

namespace Session

/-- Whether a step is to build a policy as planned. The default policy is built once. -/
inductive Plans (session : Session) : Step → Plan → Prop
  | single
      {label name : String}
      {builder : Builder}
      {given : Option String}
      {factory : Option FactoryId}
      (found : session.builders.find? label = some builder)
      (supplied : look? session.factories given = .ok factory) :
      session.Plans (.builder (.build label name given)) ⟨name, .single builder, factory⟩
  | member
      {label member name : String}
      {set : BuilderSet}
      {id : BuilderId}
      {given : Option String}
      {factory : Option FactoryId}
      (found : session.sets.find? label = some set)
      (identified : session.ids.find? member = some id)
      (supplied : look? session.factories given = .ok factory) :
      session.Plans (.builder (.buildIn label member name given)) ⟨name, .member set id, factory⟩
  | standard
      {label name : String}
      {sources : DefaultSources}
      (found : session.defaultSources.find? label = some sources)
      (vacant : session.world.defaultPolicy = none) :
      session.Plans (.value (.installDefault label name)) ⟨name, .standard sources, none⟩

/-- The policy whose anchors a step reads or drops, or whose trust manager it asks for. -/
def operand? (session : Session) : Step → Option PolicyId
  | .policy (.takeAnchors name _) => session.world.owners.find? name
  | .policy (.invalidate name) => session.world.owners.find? name
  | .policy (.demand name _ _) => session.world.owners.find? name
  | .policy (.takeManager name _) => session.world.owners.find? name
  | .policy (.issuers name) => (session.managers.find? name).map TrustManager.policy
  | .policy (.viewManager name) => (session.directManagers.find? name).map TrustManager.policy
  | _ => none

end Session

namespace World

/-! ## Calls that build, and calls on one policy -/

namespace Call

/-- The policy whose anchors a call reads or drops, or whose trust manager it asks for. -/
def operand? : Call → Option PolicyId
  | .trustAnchors policy => some policy
  | .acceptedIssuers manager => some manager.policy
  | .trustManager policy => some policy
  | .invalidateAnchors policy => some policy
  | _ => none

end Call

section Calls

variable
  {world : World}
  {policy operand : PolicyId}
  {call : Call}
  {calls : List Call}

theorem holds_of_holds_performAll
    (idle : ∀ call ∈ calls, ¬call.MayBuild)
    (held : (world.performAll calls).policies.Holds policy) :
    world.policies.Holds policy := by
  revert held
  refine performAll_induction
    (motive := fun later => later.policies.Holds policy → world.policies.Holds policy) id ?_
  intro before call present earlier held
  exact earlier ((holds_perform_of_not_mayBuild (idle call present)).1 held)

/-- A call on one policy leaves all others as they are. -/
theorem get_perform_of_operand
    (operates : call.operand? = some operand)
    (different : policy ≠ operand) :
    (world.perform call).policies.get policy = world.policies.get policy := by
  have afterRead :
      (world.perform (.trustAnchors operand)).policies.get policy =
        world.policies.get policy := by
    obtain ⟨_, _, _, _, _, after⟩ := world.exists_trustAnchors_snd_eq operand
    rw [perform, after]
    exact Arena.get_modify_of_ne different
  cases call with
  | trustAnchors read =>
      obtain rfl : read = operand := Option.some_inj.1 operates
      exact afterRead
  | acceptedIssuers manager =>
      obtain rfl : manager.policy = operand := Option.some_inj.1 operates
      rw [perform_acceptedIssuers]
      split
      · exact afterRead
      · rfl
  | trustManager asked =>
      obtain rfl : asked = operand := Option.some_inj.1 operates
      obtain ⟨_, _, _, _, _, after⟩ := world.exists_trustManager_snd_eq asked
      rw [perform, after]
      exact Arena.get_modify_of_ne different
  | invalidateAnchors dropped =>
      obtain rfl : dropped = operand := Option.some_inj.1 operates
      rw [perform, get_invalidateAnchors, if_neg different]
  | _ => exact absurd operates (by simp [Call.operand?])

theorem get_performAll_of_operand
    (operate : ∀ call ∈ calls, call.operand? = some operand)
    (different : policy ≠ operand) :
    (world.performAll calls).policies.get policy = world.policies.get policy := by
  refine performAll_induction
    (motive := fun later => later.policies.get policy = world.policies.get policy) rfl ?_
  intro before call present same
  exact (get_perform_of_operand (operate call present) different).trans same

/-- A policy that was built stays, with all that it was built with. -/
theorem kept_performAll
    (held : world.policies.Holds policy) :
    (world.performAll calls).policies.Holds policy ∧
      ((world.performAll calls).policies.get policy).settings =
        (world.policies.get policy).settings ∧
      ((world.performAll calls).policies.get policy).factory =
        (world.policies.get policy).factory := by
  refine performAll_induction
    (motive := fun later => later.policies.Holds policy ∧
      (later.policies.get policy).settings = (world.policies.get policy).settings ∧
      (later.policies.get policy).factory = (world.policies.get policy).factory)
    ⟨held, rfl, rfl⟩ ?_
  rintro before call - ⟨heldBefore, sameSettings, sameFactory⟩
  obtain ⟨settings, factory⟩ := settings_and_factory_perform heldBefore
  exact ⟨holds_perform heldBefore, settings.trans sameSettings, factory.trans sameFactory⟩

end Calls

end World
/-! ## Steps -/

section Idle

open Session

variable {session : Session}

theorem SourceStep.idle
    (step : SourceStep) :
    ∀ call ∈ step.calls session, ¬call.MayBuild := by
  cases step <;> simp [SourceStep.calls, forall_mem_callsOn, World.Call.MayBuild]

theorem PolicyStep.idle
    (step : PolicyStep) :
    ∀ call ∈ step.calls session, ¬call.MayBuild := by
  cases step with
  | demand name what callers =>
      cases what <;> simp [PolicyStep.calls, forall_mem_callsOn, World.Call.MayBuild]
  | _ => simp [PolicyStep.calls, forall_mem_callsOn, World.Call.MayBuild]

end Idle

namespace BuilderSet

variable
  {set : BuilderSet}
  {id : BuilderId}

theorem settings_of_owns
    (owned : set.Owns id) :
    set.settings id = .ok (Settings.ofChain (⟨set, some id⟩ : Chain).builders) := by
  rw [settings, cleartext, hsts, pins, entryRefs, resolved_of_owns owned,
    resolved_of_owns owned, resolved_of_owns owned, resolved_of_owns owned]
  rfl

theorem settings_of_not_owns
    (foreign : ¬set.Owns id) :
    set.settings id = .error (.unknownBuilder id) := by
  rw [settings, cleartext, resolved_of_not_owns foreign]
  rfl

end BuilderSet

namespace Session

section Plans

variable
  {session : Session}
  {step : Step}
  {plan : Plan}
  {settings : Settings}
  {policy operand : PolicyId}

/-- A step that is to build a policy builds it, and lets its name own it. -/
theorem Plans.builds
    (planned : session.Plans step plan)
    (resolved : plan.origin.settings = .ok settings) :
    (session.step step).2.world.policies =
        session.world.policies.add
          (Policy.ofSettings settings plan.factory session.world.policies.fresh) ∧
      (session.step step).2.world.owners =
        session.world.owners.assign plan.name session.world.policies.fresh := by
  rw [world_step]
  cases planned with
  | single found supplied =>
      obtain rfl := Except.ok.inj resolved
      simp only [calls, BuilderStep.calls, look_eq_ok_iff.2 found, supplied, callsOn_ok]
      exact ⟨rfl, rfl⟩
  | @member label member name set id given factory found identified supplied =>
      have owned : set.Owns id := by
        by_contra foreign
        rw [Origin.settings, BuilderSet.settings_of_not_owns foreign] at resolved
        exact absurd resolved (by simp)
      rw [Origin.settings, BuilderSet.settings_of_owns owned] at resolved
      obtain rfl := Except.ok.inj resolved
      simp only [calls, BuilderStep.calls, look_eq_ok_iff.2 found, look_eq_ok_iff.2 identified,
        supplied, BuilderSet.chain_of_owns owned, accepted, callsOn_ok]
      exact ⟨rfl, rfl⟩
  | standard found vacant =>
      obtain rfl := Except.ok.inj resolved
      simp only [calls, ValueStep.calls, look_eq_ok_iff.2 found, callsOn_ok, World.performAll,
        List.foldl, World.perform_installDefault, vacant]
      exact ⟨rfl, rfl⟩

/-- Calls on what an attempt yields build nothing if the attempt fails. -/
theorem holds_performAll_callsOn
    {world : World}
    {attempt : Except Answer α}
    {calls : α → List World.Call}
    (held : (world.performAll (callsOn attempt calls)).policies.Holds policy) :
    world.policies.Holds policy ∨
      ∃ value, attempt = .ok value ∧
        (world.performAll (calls value)).policies.Holds policy := by
  cases attempt with
  | ok value => exact .inr ⟨value, rfl, held⟩
  | error answer => exact .inl held

/-- Whether a policy is the one that a step is to build. -/
def IsToBuild
    (session : Session)
    (step : Step)
    (policy : PolicyId) : Prop :=
  policy = session.world.policies.fresh ∧
    ∃ plan settings, session.Plans step plan ∧ plan.origin.settings = .ok settings

theorem holds_builderStep
    {step : BuilderStep}
    (held : (session.world.performAll (step.calls session)).policies.Holds policy) :
    session.world.policies.Holds policy ∨ session.IsToBuild (.builder step) policy := by
  cases step with
  | build label name given =>
      rcases holds_performAll_callsOn held with before | ⟨builder, found, held⟩
      · exact .inl before
      rcases holds_performAll_callsOn held with before | ⟨factory, supplied, held⟩
      · exact .inl before
      refine (Arena.holds_add.1 held).imp_right fun fresh => ⟨fresh, ?_⟩
      exact ⟨_, _, .single (look_eq_ok_iff.1 found) supplied, rfl⟩
  | buildIn label member name given =>
      rcases holds_performAll_callsOn held with before | ⟨set, found, held⟩
      · exact .inl before
      rcases holds_performAll_callsOn held with before | ⟨id, identified, held⟩
      · exact .inl before
      rcases holds_performAll_callsOn held with before | ⟨factory, supplied, held⟩
      · exact .inl before
      by_cases owned : set.Owns id
      · rw [BuilderSet.chain_of_owns owned] at held
        refine (Arena.holds_add.1 held).imp_right fun fresh => ⟨fresh, ?_⟩
        exact ⟨_, _, .member (look_eq_ok_iff.1 found) (look_eq_ok_iff.1 identified) supplied,
          BuilderSet.settings_of_owns owned⟩
      · rw [BuilderSet.chain_of_not_owns owned] at held
        exact .inl held
  | _ => exact .inl held

theorem holds_valueStep
    {step : ValueStep}
    (held : (session.world.performAll (step.calls session)).policies.Holds policy) :
    session.world.policies.Holds policy ∨ session.IsToBuild (.value step) policy := by
  cases step with
  | installDefault label name =>
      rcases holds_performAll_callsOn held with before | ⟨sources, found, held⟩
      · exact .inl before
      rw [World.performAll, List.foldl_cons, World.perform_installDefault] at held
      cases vacant : session.world.defaultPolicy with
      | some installed =>
          rw [vacant] at held
          exact .inl held
      | none =>
          rw [vacant] at held
          refine (Arena.holds_add.1 held).imp_right fun fresh => ⟨fresh, ?_⟩
          exact ⟨_, _, .standard (look_eq_ok_iff.1 found) vacant, rfl⟩
  | getDefault name =>
      refine .inl (World.holds_of_holds_performAll ?_ held)
      simp [ValueStep.calls, World.Call.MayBuild]
  | makeDefaultSources name given =>
      cases given <;> exact .inl held
  | _ => exact .inl held

/-- A policy that is there after a step was there before, or is the one that the step was
to build. -/
theorem holds_step
    (held : (session.step step).2.world.policies.Holds policy) :
    session.world.policies.Holds policy ∨ session.IsToBuild step policy := by
  rw [world_step] at held
  cases step with
  | source step => exact .inl (World.holds_of_holds_performAll step.idle held)
  | builder step => exact holds_builderStep held
  | policy step => exact .inl (World.holds_of_holds_performAll step.idle held)
  | value step => exact holds_valueStep held
  | events => exact .inl held

/-- A step on one policy makes calls on this policy only. -/
theorem operand?_calls
    (operates : session.operand? step = some operand) :
    ∀ call ∈ session.calls step, call.operand? = some operand := by
  have owned {name : String}
      (bound : session.world.owners.find? name = some operand) :
      session.policy name = .ok operand := look_eq_ok_iff.2 bound
  unfold operand? at operates
  split at operates
  case h_1 | h_2 | h_4 =>
    simp [calls, PolicyStep.calls, owned operates, World.Call.operand?]
  case h_3 name what callers =>
    cases what <;> simp [calls, PolicyStep.calls, owned operates, World.Call.operand?]
  case h_5 | h_6 =>
    obtain ⟨manager, found, rfl⟩ := Option.map_eq_some_iff.1 operates
    simp [calls, PolicyStep.calls, look_eq_ok_iff.2 found, World.Call.operand?]
  case h_7 => exact absurd operates (by simp)

/-- A step on one policy leaves all others as they are. -/
theorem get_step_of_operand
    (operates : session.operand? step = some operand)
    (different : policy ≠ operand) :
    (session.step step).2.world.policies.get policy = session.world.policies.get policy := by
  rw [world_step]
  exact World.get_performAll_of_operand (operand?_calls operates) different

/-- What a policy was built with stays, whatever a step does. -/
theorem kept_step
    (held : session.world.policies.Holds policy) :
    (session.step step).2.world.policies.Holds policy ∧
      ((session.step step).2.world.policies.get policy).settings =
        (session.world.policies.get policy).settings ∧
      ((session.step step).2.world.policies.get policy).factory =
        (session.world.policies.get policy).factory := by
  rw [world_step]
  exact World.kept_performAll held

end Plans

/-! ## Runs -/

/-- The session in which the step at a position of a run is carried out. -/
abbrev sessionAt
    (steps : List Step)
    (position : Nat) : Session :=
  stateAt (fun session step => (session.step step).2) initial steps position

/-- A policy at a position of a run. -/
def policyAt
    (steps : List Step)
    (policy : PolicyId)
    (position : Nat) : Policy :=
  (sessionAt steps position).world.policies.get policy

/-- Whether the step at a position of a run builds a policy as planned, from an origin that
resolves to some settings at that moment. -/
structure BuiltAt
    (steps : List Step)
    (position : Nat)
    (policy : PolicyId)
    (plan : Plan)
    (settings : Settings) : Prop where
  planned : ∃ step, steps[position]? = some step ∧ (sessionAt steps position).Plans step plan
  resolved : plan.origin.settings = .ok settings
  fresh : policy = (sessionAt steps position).world.policies.fresh

section Runs

variable
  {steps : List Step}
  {position first last : Nat}
  {policy other : PolicyId}
  {plan : Plan}
  {settings : Settings}

/-- A step leads to the session at the next position. -/
theorem sessionAt_succ
    {step : Step}
    (present : steps[position]? = some step) :
    sessionAt steps (position + 1) = ((sessionAt steps position).step step).2 :=
  stateAt_succ_of_some present

/-- A policy that was built stays, with all that it was built with. -/
theorem kept_of_le
    (ordered : first ≤ last)
    (held : (sessionAt steps first).world.policies.Holds policy) :
    (sessionAt steps last).world.policies.Holds policy ∧
      (policyAt steps policy last).settings = (policyAt steps policy first).settings ∧
      (policyAt steps policy last).factory = (policyAt steps policy first).factory := by
  refine stateAt_of_le
    (motive := fun session : Session => session.world.policies.Holds policy ∧
      (session.world.policies.get policy).settings = (policyAt steps policy first).settings ∧
      (session.world.policies.get policy).factory = (policyAt steps policy first).factory)
    ordered ⟨held, rfl, rfl⟩ ?_
  rintro position step - - - ⟨heldBefore, sameSettings, sameFactory⟩
  obtain ⟨held, settings, factory⟩ := kept_step heldBefore
  exact ⟨held, settings.trans sameSettings, factory.trans sameFactory⟩

/-- A policy that is there was built at an earlier position. -/
theorem exists_builtAt
    (held : (sessionAt steps last).world.policies.Holds policy) :
    ∃ moment plan settings, moment < last ∧ BuiltAt steps moment policy plan settings := by
  induction last with
  | zero => exact absurd held (Nat.not_lt_zero _)
  | succ position inductionHypothesis =>
      have before (held : (sessionAt steps position).world.policies.Holds policy) :
          ∃ moment plan settings, moment < position + 1 ∧
            BuiltAt steps moment policy plan settings := by
        obtain ⟨moment, plan, settings, earlier, built⟩ := inductionHypothesis held
        exact ⟨moment, plan, settings, Nat.lt_succ_of_lt earlier, built⟩
      cases present : steps[position]? with
      | none =>
          rw [sessionAt, stateAt_succ_of_none present] at held
          exact before held
      | some step =>
          rw [sessionAt_succ present] at held
          rcases holds_step held with held | ⟨fresh, plan, settings, planned, resolved⟩
          · exact before held
          · exact ⟨position, plan, settings, Nat.lt_succ_self position,
              ⟨⟨step, present, planned⟩, resolved, fresh⟩⟩

namespace BuiltAt

/-- A policy that is built is the one that was asked for, with empty cells, and its name
owns it. -/
theorem get_succ
    (built : BuiltAt steps position policy plan settings) :
    (sessionAt steps (position + 1)).world.owners.find? plan.name = some policy ∧
      (sessionAt steps (position + 1)).world.policies.Holds policy ∧
      policyAt steps policy (position + 1) =
        Policy.ofSettings settings plan.factory policy := by
  obtain ⟨⟨step, present, planned⟩, resolved, rfl⟩ := built
  obtain ⟨policies, owners⟩ := planned.builds resolved
  rw [policyAt, sessionAt_succ present, policies, owners]
  exact ⟨Bindings.find?_assign_self, Arena.holds_add.2 (.inr rfl), Arena.get_add_fresh⟩

/-- A built policy keeps the settings and the factory that it was built with. -/
theorem kept
    (built : BuiltAt steps first policy plan settings)
    (later : first < last) :
    (sessionAt steps last).world.policies.Holds policy ∧
      (policyAt steps policy last).settings = settings ∧
      (policyAt steps policy last).factory = plan.factory := by
  obtain ⟨-, held, made⟩ := built.get_succ
  obtain ⟨heldLater, sameSettings, sameFactory⟩ := kept_of_le later held
  rw [made] at sameSettings sameFactory
  exact ⟨heldLater, sameSettings, sameFactory⟩

/-- Policies that are built at different positions are distinct. -/
theorem ne_of_lt
    {instead : Plan}
    {otherSettings : Settings}
    (built : BuiltAt steps first policy plan settings)
    (rebuilt : BuiltAt steps last other instead otherSettings)
    (later : first < last) :
    policy ≠ other := by
  rintro rfl
  obtain ⟨held, -, -⟩ := built.kept later
  rw [rebuilt.fresh] at held
  exact Arena.not_holds_fresh held

end BuiltAt

/-! ## Frozen policies -/

/-- What a run does with the policies that are built in it. -/
structure FreezesPolicies (steps : List Step) : Prop where
  /-- Every policy that is there was built by a step of the run. -/
  built : ∀ position policy, (sessionAt steps position).world.policies.Holds policy →
    ∃ moment plan settings, moment < position ∧ BuiltAt steps moment policy plan settings
  /-- A step that builds a policy lets its name own it. Its settings are those that its
  origin resolves to, and its cells are empty. -/
  fresh : ∀ moment policy plan settings, BuiltAt steps moment policy plan settings →
    (sessionAt steps (moment + 1)).world.owners.find? plan.name = some policy ∧
      policyAt steps policy (moment + 1) = Policy.ofSettings settings plan.factory policy
  /-- In all later sessions it has these settings, and the factory that it was given. -/
  frozen : ∀ moment position policy plan settings,
    BuiltAt steps moment policy plan settings → moment < position →
    (sessionAt steps position).world.policies.Holds policy ∧
      (policyAt steps policy position).settings = settings ∧
      (policyAt steps policy position).factory = plan.factory
  /-- Policies that are built one after the other from the same origin are distinct, and
  have the same configuration. A builder of a set is the same origin as long as the set
  has not changed. -/
  twins : ∀ first second position policy other plan instead settings otherSettings,
    BuiltAt steps first policy plan settings →
    BuiltAt steps second other instead otherSettings →
    plan.origin = instead.origin → first < second → second < position →
    policy ≠ other ∧
      (policyAt steps policy position).sameConfiguration (policyAt steps other position) = true
  /-- A step that reads or drops the anchors of a policy, or asks for its trust manager,
  leaves all other policies as they are, with both of their cells. -/
  apart : ∀ position step operand other, steps[position]? = some step →
    (sessionAt steps position).operand? step = some operand → other ≠ operand →
    policyAt steps other (position + 1) = policyAt steps other position

/-- Every run freezes the policies that it builds, and keeps them apart. -/
theorem freezesPolicies
    (steps : List Step) :
    FreezesPolicies steps where
  built position policy := exists_builtAt
  fresh moment policy plan settings built := by
    obtain ⟨owned, -, made⟩ := built.get_succ
    exact ⟨owned, made⟩
  frozen moment position policy plan settings := BuiltAt.kept
  twins first second position policy other plan instead settings otherSettings := by
    intro built rebuilt sameOrigin ordered later
    -- An origin resolves to one thing, whenever and for whichever name it is built.
    have sameSettings : settings = otherSettings := by
      have resolved := built.resolved
      rw [sameOrigin, rebuilt.resolved] at resolved
      exact (Except.ok.inj resolved).symm
    obtain ⟨-, kept, -⟩ := built.kept (Nat.lt_trans ordered later)
    obtain ⟨-, keptOther, -⟩ := rebuilt.kept later
    refine ⟨built.ne_of_lt rebuilt ordered, ?_⟩
    rw [Policy.sameConfiguration, kept, keptOther, sameSettings]
    exact decide_eq_true rfl
  apart position step operand other present operates different := by
    rw [policyAt, sessionAt_succ present, get_step_of_operand operates different, policyAt]

end Runs

/-- A builder of a set is built twice, with a refused link in between, and once more after
its root was changed and the name of its source was bound to another source. -/
theorem freezesPolicies_of_changed_set :
    let steps : List Step :=
      [.source (.make "store" "store" .memory []), .policy (.makeFactory "factory"),
        .builder (.makeSet "set"),
        .builder (.insert "set" "root" (.changed [.setHsts true, .addRef ⟨"store", true⟩])),
        .builder (.insert "set" "leaf" (.changed [])),
        .builder (.setParent "set" "leaf" (some "root")),
        .builder (.buildIn "set" "leaf" "first" (some "factory")),
        .builder (.setParent "set" "root" (some "leaf")),
        .builder (.buildIn "set" "leaf" "second" none),
        .source (.make "store" "other" .counting []),
        .builder (.update "set" "root" [.setHsts false, .setRefs [⟨"store", false⟩]] false),
        .builder (.buildIn "set" "leaf" "third" none),
        .policy (.takeAnchors "first" none), .policy (.takeManager "first" "manager")]
    let first : PolicyId := ⟨0⟩
    let second : PolicyId := ⟨1⟩
    let third : PolicyId := ⟨2⟩
    (policyAt steps first 14).settings = ⟨true, true, PinSet.empty, [⟨⟨0⟩, true⟩]⟩ ∧
      (policyAt steps first 14).factory = some ⟨0⟩ ∧
      (policyAt steps first 14).sameConfiguration (policyAt steps second 14) = true ∧
      (policyAt steps third 14).settings = ⟨true, false, PinSet.empty, [⟨⟨1⟩, false⟩]⟩ ∧
      (policyAt steps first 14).manager.slot = some ⟨1, first⟩ ∧
      policyAt steps second 14 = policyAt steps second 12 := by
  intro steps first second third
  have freezes := freezesPolicies steps
  let root : Builder := { hstsEnforced := some true, entryRefs := some [⟨⟨0⟩, true⟩] }
  let set : BuilderSet := ⟨0, [root, Builder.blank], [none, some ⟨0, 0⟩]⟩
  have builtFirst : BuiltAt steps 6 first ⟨"first", .member set ⟨0, 1⟩, some ⟨0⟩⟩
      ⟨true, true, PinSet.empty, [⟨⟨0⟩, true⟩]⟩ :=
    ⟨⟨_, rfl, .member rfl rfl rfl⟩, rfl, rfl⟩
  have builtSecond : BuiltAt steps 8 second ⟨"second", .member set ⟨0, 1⟩, none⟩
      ⟨true, true, PinSet.empty, [⟨⟨0⟩, true⟩]⟩ :=
    ⟨⟨_, rfl, .member rfl rfl rfl⟩, rfl, rfl⟩
  let changed : BuilderSet :=
    ⟨0, [{ hstsEnforced := some false, entryRefs := some [⟨⟨1⟩, false⟩] }, Builder.blank],
      [none, some ⟨0, 0⟩]⟩
  have builtThird : BuiltAt steps 11 third ⟨"third", .member changed ⟨0, 1⟩, none⟩
      ⟨true, false, PinSet.empty, [⟨⟨1⟩, false⟩]⟩ :=
    ⟨⟨_, rfl, .member rfl rfl rfl⟩, rfl, rfl⟩
  obtain ⟨-, settings, factory⟩ := freezes.frozen 6 14 _ _ _ builtFirst (by decide)
  obtain ⟨-, same⟩ :=
    freezes.twins 6 8 14 _ _ _ _ _ _ builtFirst builtSecond rfl (by decide) (by decide)
  obtain ⟨-, settingsThird, -⟩ := freezes.frozen 11 14 _ _ _ builtThird (by decide)
  have afterRead : policyAt steps second 13 = policyAt steps second 12 :=
    freezes.apart 12 _ first second rfl rfl (by decide)
  have afterRequest : policyAt steps second 14 = policyAt steps second 13 :=
    freezes.apart 13 _ first second rfl rfl (by decide)
  exact ⟨settings, factory, same, settingsThird, rfl, afterRequest.trans afterRead⟩

end Session
end TrustPolicy
