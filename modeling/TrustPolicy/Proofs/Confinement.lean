import TrustPolicy.Proofs.SessionCalls

/-!
# Confinement

Each kind of step works on objects of its own. Whatever a step does, it changes only the
world and the names of the kinds of objects that it makes or changes, and leaves all
other names of the session alone.
-/

namespace TrustPolicy
namespace Session

section Leading

variable
  {session : Session}
  {property : Session → Prop}
  {attempt : Except Answer α}
  {rest : α → Except Answer (Answer × Session)}

/-- Whether an attempt leads to a session with a property. -/
def LeadsTo
    (session : Session)
    (property : Session → Prop)
    (attempt : Except Answer (Answer × Session)) : Prop :=
  property (session.settle attempt).2

/-- An attempt that is refused leaves the session as it was. -/
theorem leadsTo_bind
    (refused : property session)
    (goesOn : ∀ value, attempt = .ok value → session.LeadsTo property (rest value)) :
    session.LeadsTo property (attempt >>= rest) := by
  cases attempt with
  | ok value => exact goesOn value rfl
  | error answer => exact refused

theorem LeadsTo.mono
    {weaker : Session → Prop}
    {attempt : Except Answer (Answer × Session)}
    (leads : session.LeadsTo property attempt)
    (implies : ∀ next, property next → weaker next) :
    session.LeadsTo weaker attempt :=
  implies _ leads

end Leading

end Session

open Session

/-! ## The kinds of steps -/

/-- What a step on certificates or sources may change of a session. -/
def SourceStep.MayLeadTo (session next : Session) : Prop :=
  ∃ world certificates sources, next =
    { session with world := world, certificates := certificates, sources := sources }

/-- What a step on builders or builder sets may change of a session. -/
def BuilderStep.MayLeadTo (session next : Session) : Prop :=
  ∃ world builders sets setCount ids, next =
    { session with
      world := world, builders := builders, sets := sets, setCount := setCount, ids := ids }

/-- What a step on policies, trust managers, or notifiers may change of a session. -/
def PolicyStep.MayLeadTo (session next : Session) : Prop :=
  ∃ world factories managers directManagers notifiers snapshots, next =
    { session with
      world := world, factories := factories, managers := managers
      directManagers := directManagers, notifiers := notifiers, snapshots := snapshots }

/-- What a step on cells, anchor sets, or the default policy may change of a session. -/
def ValueStep.MayLeadTo (session next : Session) : Prop :=
  ∃ world sources builders cells anchorSets defaultSources, next =
    { session with
      world := world, sources := sources, builders := builders, cells := cells
      anchorSets := anchorSets, defaultSources := defaultSources }

section Steps

variable {session : Session}

theorem SourceStep.confined
    (step : SourceStep) :
    session.LeadsTo (SourceStep.MayLeadTo session) (step.run session) := by
  have unchanged : SourceStep.MayLeadTo session session := ⟨_, _, _, rfl⟩
  cases step with
  | decode name der =>
      rw [SourceStep.run]
      split <;> exact ⟨_, _, _, rfl⟩
  | view _ | make _ _ _ _ | countDistinct _ | queryRef _ =>
      exact leadsTo_bind unchanged fun _ _ => ⟨_, _, _, rfl⟩
  | compare _ _ | compareRefs _ _ | replace _ _ =>
      exact leadsTo_bind unchanged fun _ _ => leadsTo_bind unchanged fun _ _ => ⟨_, _, _, rfl⟩
  | add _ _ | remove _ _ | watch _ _ =>
      refine leadsTo_bind unchanged fun _ _ => leadsTo_bind unchanged fun _ _ => ?_
      split <;> exact ⟨_, _, _, rfl⟩
  | setFailing _ _ | setFailure _ _ | stats _ =>
      refine leadsTo_bind unchanged fun _ _ => ?_
      split <;> exact ⟨_, _, _, rfl⟩

theorem BuilderStep.confined
    (step : BuilderStep) :
    session.LeadsTo (BuilderStep.MayLeadTo session) (step.run session) := by
  have unchanged : BuilderStep.MayLeadTo session session := ⟨_, _, _, _, _, rfl⟩
  cases step with
  | makeSet _ => exact ⟨_, _, _, _, _, rfl⟩
  | view _ | setSize _ => exact leadsTo_bind unchanged fun _ _ => ⟨_, _, _, _, _, rfl⟩
  | make _ _ _ | build _ _ _ | insert _ _ _ | effective _ _ =>
      exact leadsTo_bind unchanged fun _ _ => leadsTo_bind unchanged fun _ _ =>
        ⟨_, _, _, _, _, rfl⟩
  | get _ _ =>
      exact leadsTo_bind unchanged fun _ _ => leadsTo_bind unchanged fun _ _ =>
        leadsTo_bind unchanged fun _ _ => ⟨_, _, _, _, _, rfl⟩
  | update _ _ _ _ =>
      refine leadsTo_bind unchanged fun _ _ => leadsTo_bind unchanged fun _ _ => ?_
      dsimp only
      split <;> exact ⟨_, _, _, _, _, rfl⟩
  | setParent _ _ _ =>
      refine leadsTo_bind unchanged fun _ _ => leadsTo_bind unchanged fun _ _ =>
        leadsTo_bind unchanged fun _ _ => ?_
      dsimp only
      split <;> exact ⟨_, _, _, _, _, rfl⟩
  | buildIn _ _ _ _ =>
      refine leadsTo_bind unchanged fun _ _ => leadsTo_bind unchanged fun _ _ =>
        leadsTo_bind unchanged fun _ _ => ?_
      split <;> exact ⟨_, _, _, _, _, rfl⟩
  | parentOf _ _ =>
      refine leadsTo_bind unchanged fun _ _ => leadsTo_bind unchanged fun _ _ =>
        leadsTo_bind unchanged fun parent _ => ?_
      cases parent <;> exact unchanged

theorem PolicyStep.confined
    (step : PolicyStep) :
    session.LeadsTo (PolicyStep.MayLeadTo session) (step.run session) := by
  have unchanged : PolicyStep.MayLeadTo session session := ⟨_, _, _, _, _, _, rfl⟩
  cases step with
  | makeFactory _ | makeNotifier _ => exact ⟨_, _, _, _, _, _, rfl⟩
  | registerSource _ _ | registerPolicy _ _ | sameSnapshot _ _ | same _ _
  | sameConfiguration _ _ | sameManager _ _ =>
      exact leadsTo_bind unchanged fun _ _ => leadsTo_bind unchanged fun _ _ =>
        ⟨_, _, _, _, _, _, rfl⟩
  | takeAnchors _ _ | takeManager _ _ =>
      refine leadsTo_bind unchanged fun _ _ => ?_
      dsimp only
      split <;> exact ⟨_, _, _, _, _, _, rfl⟩
  | demand _ _ _ =>
      refine leadsTo_bind unchanged fun _ _ => ?_
      split <;> exact ⟨_, _, _, _, _, _, rfl⟩
  | view _ | describe _ | viewSnapshot _ | cached _ | invalidate _ | drop _ | factoryStats _
  | setFactoryFailing _ _ | issuers _ | bindManager _ _ | viewManager _ | notifierStats _
  | announce _ =>
      exact leadsTo_bind unchanged fun _ _ => ⟨_, _, _, _, _, _, rfl⟩

theorem ValueStep.confined
    (step : ValueStep) :
    session.LeadsTo (ValueStep.MayLeadTo session) (step.run session) := by
  have unchanged : ValueStep.MayLeadTo session session := ⟨_, _, _, _, _, _, rfl⟩
  cases step with
  | makeCell _ => exact ⟨_, _, _, _, _, _, rfl⟩
  | viewCell _ | invalidateCell _ | makeAnchorSet _ _ | viewAnchorSet _ | defaultBuilder _ _ =>
      exact leadsTo_bind unchanged fun _ _ => ⟨_, _, _, _, _, _, rfl⟩
  | insertAnchor _ _ | extendAnchorSet _ _ | findAnchor _ _ | compareAnchorSets _ _ =>
      exact leadsTo_bind unchanged fun _ _ => leadsTo_bind unchanged fun _ _ =>
        ⟨_, _, _, _, _, _, rfl⟩
  | initializeCell _ _ =>
      refine leadsTo_bind unchanged fun _ _ => ?_
      dsimp only
      split <;> exact ⟨_, _, _, _, _, _, rfl⟩
  | makeDefaultSources _ given =>
      cases given with
      | none => exact ⟨_, _, _, _, _, _, rfl⟩
      | some _ =>
          exact leadsTo_bind unchanged fun _ _ => leadsTo_bind unchanged fun _ _ =>
            ⟨_, _, _, _, _, _, rfl⟩
  | installDefault _ _ =>
      refine leadsTo_bind unchanged fun _ _ => ?_
      split <;> exact ⟨_, _, _, _, _, _, rfl⟩
  | getDefault _ =>
      rw [ValueStep.run]
      split <;> exact ⟨_, _, _, _, _, _, rfl⟩

end Steps

/-! ## Names of policy objects -/

namespace Session

/-- Whether names stand for the same factories, trust managers, notifiers, and snapshots as
before. -/
structure LeavesPolicyObjects (session next : Session) : Prop where
  factories : next.factories = session.factories
  managers : next.managers = session.managers
  directManagers : next.directManagers = session.directManagers
  notifiers : next.notifiers = session.notifiers
  snapshots : next.snapshots = session.snapshots

/-- Only steps on policies, trust managers, or notifiers give names to them. -/
theorem leavesPolicyObjects_step
    {session : Session}
    {step : Step}
    (other : ∀ on, step ≠ .policy on) :
    session.LeavesPolicyObjects (session.step step).2 := by
  have leads : session.LeadsTo session.LeavesPolicyObjects (session.attempt step) := by
    cases step with
    | policy on => exact absurd rfl (other on)
    | source step =>
        apply step.confined.mono
        rintro _ ⟨_, _, _, rfl⟩
        exact ⟨rfl, rfl, rfl, rfl, rfl⟩
    | builder step =>
        apply step.confined.mono
        rintro _ ⟨_, _, _, _, _, rfl⟩
        exact ⟨rfl, rfl, rfl, rfl, rfl⟩
    | value step =>
        apply step.confined.mono
        rintro _ ⟨_, _, _, _, _, _, rfl⟩
        exact ⟨rfl, rfl, rfl, rfl, rfl⟩
    | events => exact ⟨rfl, rfl, rfl, rfl, rfl⟩
  rw [step_eq_settle]
  exact leads

end Session

end TrustPolicy
