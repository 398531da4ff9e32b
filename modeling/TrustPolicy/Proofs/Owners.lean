import TrustPolicy.Proofs.BuiltPolicies

/-!
# Owners of policies

A policy lives as long as a name holds it or it is the default policy. A name is given a
policy by a step that builds one or that takes the default policy, and keeps it until it
is given another one or dropped. What else refers to a policy plays no part.
-/

namespace TrustPolicy

namespace World

section Owners

variable
  {world : World}
  {call : Call}
  {name : String}

/-- The name that a call may give to a policy, or take from one. -/
def Call.owner? : Call → Option String
  | .buildChain name _ _ => some name
  | .installDefault name _ => some name
  | .ownDefault name => some name
  | .disown name => some name
  | _ => none

/-- A call that gives and takes no name leaves all policies to those who hold them. -/
theorem holders_perform
    {policy : PolicyId}
    (idle : call.owner? = none) :
    (world.perform call).holders policy = world.holders policy := by
  rw [holders, holders]
  have becomes := world.ownersBecome_perform call
  generalize (world.perform call).owners = owners at becomes ⊢
  generalize (world.perform call).defaultPolicy = slot at becomes ⊢
  cases becomes with
  | kept => rfl
  | _ => exact absurd idle (by simp [Call.owner?])

theorem holders_performAll
    {calls : List Call}
    {policy : PolicyId}
    (idle : ∀ call ∈ calls, call.owner? = none) :
    (world.performAll calls).holders policy = world.holders policy := by
  refine performAll_induction
    (motive := fun later => later.holders policy = world.holders policy) rfl ?_
  intro before call present same
  exact (holders_perform (idle call present)).trans same

/-- A call gives no other name to a policy, and takes no other one. -/
theorem find?_owners_perform
    (other : call.owner? ≠ some name) :
    (world.perform call).owners.find? name = world.owners.find? name := by
  have becomes := world.ownersBecome_perform call
  have different {called : String}
      (unlike : some called ≠ some name) : name ≠ called := fun same => unlike (same ▸ rfl)
  generalize (world.perform call).owners = owners at becomes ⊢
  generalize (world.perform call).defaultPolicy = slot at becomes
  cases becomes with
  | kept => rfl
  | disowned called => exact Bindings.find?_erase_of_ne (different other)
  | _ => exact Bindings.find?_assign_of_ne (different other)

theorem find?_owners_performAll
    {calls : List Call}
    (others : ∀ call ∈ calls, call.owner? ≠ some name) :
    (world.performAll calls).owners.find? name = world.owners.find? name := by
  refine performAll_induction
    (motive := fun later => later.owners.find? name = world.owners.find? name) rfl ?_
  intro before call present same
  exact (find?_owners_perform (others call present)).trans same

/-- Only an installation fills the slot for the default policy. -/
theorem defaultPolicy_performAll
    {calls : List Call}
    (idle : ∀ call ∈ calls, ∀ name sources, call ≠ .installDefault name sources) :
    (world.performAll calls).defaultPolicy = world.defaultPolicy := by
  refine performAll_induction
    (motive := fun later => later.defaultPolicy = world.defaultPolicy) rfl ?_
  intro before call present same
  have becomes := before.ownersBecome_perform call
  have notInstalls := idle call present
  generalize (before.perform call).owners = owners at becomes
  generalize (before.perform call).defaultPolicy = slot at becomes ⊢
  cases becomes with
  | installed name sources vacant => exact absurd rfl (notInstalls name sources)
  | _ => exact same

end Owners

end World

/-! ## Steps -/

/-- The name that a step may give to a policy, or take from one. -/
def Step.owner? : Step → Option String
  | .builder (.build _ name _) => some name
  | .builder (.buildIn _ _ name _) => some name
  | .policy (.drop name) => some name
  | .value (.installDefault _ name) => some name
  | .value (.getDefault name) => some name
  | _ => none

namespace Session

/-- Whether a step gives a policy to a name: one that it builds, or the default policy. -/
inductive Gives (session : Session) : Step → String → PolicyId → Prop
  | built
      {step : Step}
      {plan : Plan}
      {settings : Settings}
      (planned : session.Plans step plan)
      (resolved : plan.origin.settings = .ok settings) :
      session.Gives step plan.name session.world.policies.fresh
  | standard
      {name : String}
      {policy : PolicyId}
      (installed : session.world.defaultPolicy = some policy) :
      session.Gives (.value (.getDefault name)) name policy

/-- Whether a step takes from a name what it held: it gives it another policy, or drops it. -/
def Takes
    (session : Session)
    (step : Step)
    (name : String) : Prop :=
  step = .policy (.drop name) ∨ ∃ policy, session.Gives step name policy

section Steps

variable
  {session : Session}
  {step : Step}
  {name : String}
  {policy : PolicyId}

theorem Gives.find?_step
    (gives : session.Gives step name policy) :
    (session.step step).2.world.owners.find? name = some policy := by
  cases gives with
  | built planned resolved =>
      rw [(planned.builds resolved).2]
      exact Bindings.find?_assign_self
  | standard installed =>
      have owned : session.world.perform (.ownDefault name) =
          (session.world.retain policy).own name policy :=
        World.perform_ownDefault_of_eq_some installed
      rw [world_step]
      exact (congrArg (fun world : World => world.owners.find? name) owned).trans
        Bindings.find?_assign_self

theorem find?_step_drop :
    (session.step (.policy (.drop name))).2.world.owners.find? name = none := by
  rw [step_eq_settle]
  cases bound : session.world.owners.find? name with
  | none =>
      rw [attempt, PolicyStep.run, Session.policy, settle_look_of_none bound]
      exact bound
  | some policy =>
      rw [attempt, PolicyStep.run, Session.policy, settle_look_of_some bound]
      exact Bindings.find?_erase_self

/-- The calls of a step give and take no name but that of the step. -/
theorem owner?_calls
    (other : step.owner? ≠ some name) :
    ∀ call ∈ session.calls step, call.owner? ≠ some name := by
  cases step with
  | source step =>
      cases step <;> simp [calls, SourceStep.calls, forall_mem_callsOn, World.Call.owner?]
  | builder step =>
      cases step with
      | build label named given | buildIn label member named given =>
          have different : named ≠ name := fun same => other (congrArg some same)
          simp [calls, BuilderStep.calls, forall_mem_callsOn, World.Call.owner?, different]
      | _ => simp [calls, BuilderStep.calls]
  | policy step =>
      cases step with
      | drop named =>
          have different : named ≠ name := fun same => other (congrArg some same)
          simp [calls, PolicyStep.calls, forall_mem_callsOn, World.Call.owner?, different]
      | demand label what callers =>
          cases what <;>
            simp [calls, PolicyStep.calls, forall_mem_callsOn, World.Call.owner?]
      | _ => simp [calls, PolicyStep.calls, forall_mem_callsOn, World.Call.owner?]
  | value step =>
      cases step with
      | installDefault label named | getDefault named =>
          have different : named ≠ name := fun same => other (congrArg some same)
          simp [calls, ValueStep.calls, forall_mem_callsOn, World.Call.owner?, different]
      | makeDefaultSources label given =>
          cases given <;> simp [calls, ValueStep.calls, World.Call.owner?]
      | _ => simp [calls, ValueStep.calls]
  | events => simp [calls, World.Call.owner?]

/-- A step that gives and takes no name leaves all policies to those who hold them. -/
theorem holders_step
    (idle : step.owner? = none) :
    (session.step step).2.world.holders policy = session.world.holders policy := by
  rw [world_step]
  refine World.holders_performAll fun call present => ?_
  refine Option.eq_none_iff_forall_ne_some.2 fun name => owner?_calls ?_ call present
  simp [idle]

/-- Calls on what an attempt yields leave a name alone if the attempt fails or they do. -/
theorem find?_owners_callsOn
    {world : World}
    {attempt : Except Answer α}
    {calls : α → List World.Call}
    (kept : ∀ value, attempt = .ok value →
      (world.performAll (calls value)).owners.find? name = world.owners.find? name) :
    (world.performAll (callsOn attempt calls)).owners.find? name = world.owners.find? name := by
  cases attempt with
  | ok value => exact kept value rfl
  | error answer => rfl

theorem find?_owners_builderStep
    {step : BuilderStep}
    (named : (Step.builder step).owner? = some name)
    (kept : ¬session.Takes (.builder step) name) :
    (session.world.performAll (step.calls session)).owners.find? name =
      session.world.owners.find? name := by
  cases step with
  | build label owner given =>
      obtain rfl : owner = name := Option.some_inj.1 named
      refine find?_owners_callsOn fun builder found => find?_owners_callsOn fun _ supplied => ?_
      have planned : session.Plans (.builder (.build label owner given)) ⟨owner, _, _⟩ :=
        .single (look_eq_ok_iff.1 found) supplied
      exact absurd (.inr ⟨_, .built planned rfl⟩) kept
  | buildIn label member owner given =>
      obtain rfl : owner = name := Option.some_inj.1 named
      refine find?_owners_callsOn fun set found => find?_owners_callsOn fun id identified =>
        find?_owners_callsOn fun _ supplied => find?_owners_callsOn fun chain walks => ?_
      by_cases owned : set.Owns id
      · have planned : session.Plans (.builder (.buildIn label member owner given))
            ⟨owner, _, _⟩ :=
          .member (look_eq_ok_iff.1 found) (look_eq_ok_iff.1 identified) supplied
        exact absurd (.inr ⟨_, .built planned (BuilderSet.settings_of_owns owned)⟩) kept
      · rw [BuilderSet.chain_of_not_owns owned] at walks
        exact absurd walks (by simp [accepted])
  | _ => exact absurd named (by simp [Step.owner?])

theorem find?_owners_valueStep
    {step : ValueStep}
    (named : (Step.value step).owner? = some name)
    (kept : ¬session.Takes (.value step) name) :
    (session.world.performAll (step.calls session)).owners.find? name =
      session.world.owners.find? name := by
  cases step with
  | installDefault label owner =>
      obtain rfl : owner = name := Option.some_inj.1 named
      refine find?_owners_callsOn fun sources found => ?_
      cases vacant : session.world.defaultPolicy with
      | none =>
          have planned : session.Plans (.value (.installDefault label owner)) ⟨owner, _, _⟩ :=
            .standard (look_eq_ok_iff.1 found) vacant
          exact absurd (.inr ⟨_, .built planned rfl⟩) kept
      | some installed =>
          rw [World.performAll, List.foldl_cons, World.perform_installDefault, vacant]
          rfl
  | getDefault owner =>
      obtain rfl : owner = name := Option.some_inj.1 named
      cases installed : session.world.defaultPolicy with
      | some policy => exact absurd (.inr ⟨policy, .standard installed⟩) kept
      | none =>
          have idle : session.world.perform (.ownDefault owner) = session.world :=
            World.perform_ownDefault_of_eq_none installed
          exact congrArg (fun world : World => world.owners.find? owner) idle
  | _ => exact absurd named (by simp [Step.owner?])

/-- A name that is not taken keeps what it holds. -/
theorem find?_owners_step
    (kept : ¬session.Takes step name) :
    (session.step step).2.world.owners.find? name = session.world.owners.find? name := by
  rw [world_step]
  by_cases named : step.owner? = some name
  case neg => exact World.find?_owners_performAll (owner?_calls named)
  cases step with
  | builder step => exact find?_owners_builderStep named kept
  | value step => exact find?_owners_valueStep named kept
  | policy step =>
      cases step with
      | drop owner =>
          obtain rfl : owner = name := Option.some_inj.1 named
          exact absurd (.inl rfl) kept
      | _ => exact absurd named (by simp [Step.owner?])
  | source step => exact absurd named (by simp [Step.owner?])
  | events => exact absurd named (by simp [Step.owner?])

/-- A name that is taken holds what it is given, if anything. -/
theorem Takes.find?_step_iff
    (taken : session.Takes step name) :
    (session.step step).2.world.owners.find? name = some policy ↔
      session.Gives step name policy := by
  refine ⟨fun found => ?_, Gives.find?_step⟩
  rcases taken with rfl | ⟨given, gives⟩
  · exact absurd (find?_step_drop.symm.trans found) (by simp)
  · obtain rfl : given = policy := Option.some_inj.1 (gives.find?_step.symm.trans found)
    exact gives

/-- Only a step that is to install the default policy installs one. -/
theorem ne_installDefault_calls
    (other : ∀ label owner, step ≠ .value (.installDefault label owner)) :
    ∀ call ∈ session.calls step, ∀ owner sources, call ≠ .installDefault owner sources := by
  cases step with
  | source step => cases step <;> simp [calls, SourceStep.calls, forall_mem_callsOn]
  | builder step => cases step <;> simp [calls, BuilderStep.calls, forall_mem_callsOn]
  | policy step =>
      cases step with
      | demand label what callers =>
          cases what <;> simp [calls, PolicyStep.calls, forall_mem_callsOn]
      | _ => simp [calls, PolicyStep.calls, forall_mem_callsOn]
  | value step =>
      cases step with
      | installDefault label owner => exact absurd rfl (other label owner)
      | makeDefaultSources label given => cases given <;> simp [calls, ValueStep.calls]
      | _ => simp [calls, ValueStep.calls]
  | events => simp [calls]

/-- A step that installs the default policy fills the slot with the policy that it builds. -/
theorem Plans.defaultPolicy_step
    {sources : DefaultSources}
    (planned : session.Plans step ⟨name, .standard sources, none⟩) :
    (session.step step).2.world.defaultPolicy = some session.world.policies.fresh := by
  cases planned with
  | standard found vacant =>
      rw [world_step, calls, ValueStep.calls, look_eq_ok_iff.2 found, callsOn_ok, World.performAll,
        List.foldl_cons, World.perform_installDefault, vacant]
      rfl

/-- The slot for the default policy stays as it is, or is filled by a step that is to do so. -/
theorem defaultPolicy_step_cases
    (session : Session)
    (step : Step) :
    (session.step step).2.world.defaultPolicy = session.world.defaultPolicy ∨
      ∃ owner sources, session.Plans step ⟨owner, .standard sources, none⟩ ∧
        (session.step step).2.world.defaultPolicy = some session.world.policies.fresh := by
  by_cases installs : ∃ label owner, step = .value (.installDefault label owner)
  case neg =>
    rw [world_step]
    refine .inl (World.defaultPolicy_performAll (ne_installDefault_calls ?_))
    exact fun label owner same => installs ⟨label, owner, same⟩
  obtain ⟨label, owner, rfl⟩ := installs
  cases found : session.defaultSources.find? label with
  | none =>
      rw [step_eq_settle, attempt, ValueStep.run, settle_look_of_none found]
      exact .inl rfl
  | some sources =>
      cases vacant : session.world.defaultPolicy with
      | none =>
          have planned : session.Plans (.value (.installDefault label owner))
              ⟨owner, .standard sources, none⟩ := .standard found vacant
          exact .inr ⟨owner, sources, planned, planned.defaultPolicy_step⟩
      | some installed =>
          rw [world_step, calls, ValueStep.calls, look_eq_ok_iff.2 found, callsOn_ok,
            World.performAll, List.foldl_cons, World.perform_installDefault, vacant]
          exact .inl vacant

end Steps

/-! ## Runs -/

/-- Whether a name holds a policy at a position of a run: an earlier step gave it, and no
step in between took it. -/
def HeldBy
    (steps : List Step)
    (position : Nat)
    (name : String)
    (policy : PolicyId) : Prop :=
  ∃ moment step, moment < position ∧ steps[moment]? = some step ∧
    (sessionAt steps moment).Gives step name policy ∧
    ∀ between later, moment < between → between < position → steps[between]? = some later →
      ¬(sessionAt steps between).Takes later name

/-- Whether a policy was installed as the default policy before a position of a run. -/
def InstalledBefore
    (steps : List Step)
    (position : Nat)
    (policy : PolicyId) : Prop :=
  ∃ moment step name sources, moment < position ∧ steps[moment]? = some step ∧
    (sessionAt steps moment).Plans step ⟨name, .standard sources, none⟩ ∧
    policy = (sessionAt steps moment).world.policies.fresh

/-- Whether a policy lives at a position of a run: some name holds it, or it was installed
as the default policy. -/
def Lives
    (steps : List Step)
    (position : Nat)
    (policy : PolicyId) : Prop :=
  (∃ name, HeldBy steps position name policy) ∨ InstalledBefore steps position policy

section Runs

variable
  {steps : List Step}
  {position : Nat}
  {step : Step}
  {name : String}
  {policy : PolicyId}

/-- A name that is given a policy holds it. -/
theorem heldBy_succ_of_gives
    (present : steps[position]? = some step)
    (gives : (sessionAt steps position).Gives step name policy) :
    HeldBy steps (position + 1) name policy := by
  refine ⟨position, step, Nat.lt_succ_self position, present, gives, ?_⟩
  intro between later after before
  exact absurd after (Nat.not_lt_of_le (Nat.le_of_lt_succ before))

/-- What a name holds after a step was given by it, or was held before and not taken. -/
theorem heldBy_succ_cases
    (held : HeldBy steps (position + 1) name policy) :
    (∃ step, steps[position]? = some step ∧ (sessionAt steps position).Gives step name policy) ∨
      HeldBy steps position name policy ∧
        ∀ step, steps[position]? = some step → ¬(sessionAt steps position).Takes step name := by
  obtain ⟨moment, step, before, present, gives, kept⟩ := held
  rcases Nat.lt_succ_iff_lt_or_eq.1 before with earlier | rfl
  · refine .inr ⟨⟨moment, step, earlier, present, gives, ?_⟩, ?_⟩
    · intro between later after ltPosition
      exact kept between later after (Nat.lt_succ_of_lt ltPosition)
    · exact fun later => kept position later earlier (Nat.lt_succ_self position)
  · exact .inl ⟨step, present, gives⟩

/-- A name that holds a policy still does after a step that does not take it. -/
theorem HeldBy.succ
    (held : HeldBy steps position name policy)
    (notTaken : ∀ step, steps[position]? = some step →
      ¬(sessionAt steps position).Takes step name) :
    HeldBy steps (position + 1) name policy := by
  obtain ⟨moment, step, before, present, gives, kept⟩ := held
  refine ⟨moment, step, Nat.lt_succ_of_lt before, present, gives, ?_⟩
  intro between later after ltSucc
  rcases Nat.lt_succ_iff_lt_or_eq.1 ltSucc with earlier | rfl
  · exact kept between later after earlier
  · exact notTaken later

/-- A name that is not taken holds what it has held before. -/
theorem heldBy_succ_iff_of_not_taken
    (notTaken : ∀ step, steps[position]? = some step →
      ¬(sessionAt steps position).Takes step name) :
    HeldBy steps (position + 1) name policy ↔ HeldBy steps position name policy := by
  refine ⟨fun held => ?_, fun held => held.succ notTaken⟩
  rcases heldBy_succ_cases held with ⟨step, present, gives⟩ | ⟨before, -⟩
  · exact absurd (.inr ⟨policy, gives⟩) (notTaken step present)
  · exact before

/-- A name that is taken holds what it is given. -/
theorem heldBy_succ_iff_of_taken
    (present : steps[position]? = some step)
    (taken : (sessionAt steps position).Takes step name) :
    HeldBy steps (position + 1) name policy ↔
      (sessionAt steps position).Gives step name policy := by
  refine ⟨fun held => ?_, heldBy_succ_of_gives present⟩
  rcases heldBy_succ_cases held with ⟨other, found, gives⟩ | ⟨-, notTaken⟩
  · obtain rfl : step = other := Option.some_inj.1 (present.symm.trans found)
    exact gives
  · exact absurd taken (notTaken step present)

/-- The names that own policies are those that hold them by what the run has done. -/
theorem heldBy_iff :
    HeldBy steps position name policy ↔
      (sessionAt steps position).world.owners.find? name = some policy := by
  induction position with
  | zero =>
      constructor
      · rintro ⟨_, _, before, _⟩
        exact absurd before (Nat.not_lt_zero _)
      · exact fun found => absurd found (by simp [initial, World.initial])
  | succ position inductionHypothesis =>
      cases present : steps[position]? with
      | none =>
          rw [sessionAt, stateAt_succ_of_none present, ← inductionHypothesis]
          refine heldBy_succ_iff_of_not_taken fun step found => ?_
          exact absurd (present.symm.trans found) (by simp)
      | some step =>
          rw [sessionAt_succ present]
          by_cases taken : (sessionAt steps position).Takes step name
          · exact (heldBy_succ_iff_of_taken present taken).trans taken.find?_step_iff.symm
          · rw [find?_owners_step taken, ← inductionHypothesis]
            refine heldBy_succ_iff_of_not_taken fun other found => ?_
            obtain rfl : step = other := Option.some_inj.1 (present.symm.trans found)
            exact taken

/-- A policy that was installed is still one that was installed before. -/
theorem InstalledBefore.succ
    (installed : InstalledBefore steps position policy) :
    InstalledBefore steps (position + 1) policy := by
  obtain ⟨moment, step, name, sources, before, planned⟩ := installed
  exact ⟨moment, step, name, sources, Nat.lt_succ_of_lt before, planned⟩

/-- A policy that was installed was so by the last step or before. -/
theorem installedBefore_succ_cases
    (installed : InstalledBefore steps (position + 1) policy) :
    InstalledBefore steps position policy ∨
      ∃ step name sources, steps[position]? = some step ∧
        (sessionAt steps position).Plans step ⟨name, .standard sources, none⟩ ∧
        policy = (sessionAt steps position).world.policies.fresh := by
  obtain ⟨moment, step, name, sources, before, planned⟩ := installed
  rcases Nat.lt_succ_iff_lt_or_eq.1 before with earlier | rfl
  · exact .inl ⟨moment, step, name, sources, earlier, planned⟩
  · exact .inr ⟨step, name, sources, planned⟩

/-- The slot for the default policy holds the one that was installed. -/
theorem installedBefore_iff :
    InstalledBefore steps position policy ↔
      (sessionAt steps position).world.defaultPolicy = some policy := by
  induction position with
  | zero =>
      constructor
      · rintro ⟨_, _, _, _, before, _⟩
        exact absurd before (Nat.not_lt_zero _)
      · exact fun installed => absurd installed (by simp [initial, World.initial])
  | succ position inductionHypothesis =>
      cases present : steps[position]? with
      | none =>
          rw [sessionAt, stateAt_succ_of_none present, ← inductionHypothesis]
          constructor
          · intro installed
            rcases installedBefore_succ_cases installed with before | ⟨step, _, _, found, _⟩
            · exact before
            · exact absurd (present.symm.trans found) (by simp)
          · exact InstalledBefore.succ
      | some step =>
          rw [sessionAt_succ present]
          have stepCases := (sessionAt steps position).defaultPolicy_step_cases step
          constructor
          · intro installed
            rcases installedBefore_succ_cases installed with
              before | ⟨other, _, _, found, planned, rfl⟩
            · -- The slot is filled already, so the step is not to fill it.
              have filled := inductionHypothesis.1 before
              rcases stepCases with same | ⟨_, _, again, _⟩
              · exact same.trans filled
              · cases again with
                | standard _ vacant => exact absurd (vacant.symm.trans filled) (by simp)
            · obtain rfl : step = other := Option.some_inj.1 (present.symm.trans found)
              exact planned.defaultPolicy_step
          · intro installed
            rcases stepCases with same | ⟨name, sources, planned, filled⟩
            · exact (inductionHypothesis.2 (same.symm.trans installed)).succ
            · have fresh := Option.some_inj.1 (installed.symm.trans filled)
              exact ⟨position, step, name, sources, Nat.lt_succ_self position, present, planned,
                fresh⟩

end Runs

end Session
end TrustPolicy
