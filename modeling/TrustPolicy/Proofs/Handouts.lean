import TrustPolicy.Proofs.Confinement
import TrustPolicy.Proofs.Views

/-!
# Trust managers of sessions

A session gives names to the trust managers that policies give and to those that are
bound to policies directly. All of them were handed out by calls of the session, each for
a policy that had been built before. So whatever a session asks a trust manager for, it
is shown what its policy shows then.
-/

namespace TrustPolicy

namespace World

/-! ## More calls -/

section Extensions

variable
  {calls more : List Call}
  {policy : PolicyId}
  {manager : TrustManager}
  {position : Nat}

/-- The worlds of a run stay as they are if more calls follow. -/
theorem worldAt_append
    (le : position ≤ calls.length) :
    worldAt (calls ++ more) position = worldAt calls position := by
  rw [worldAt, stateAt, List.take_append_of_le_length le]
  rfl

/-- A trust manager that was handed out stays so if more calls follow. -/
theorem HandedOutAt.append
    (handedOut : HandedOutAt calls policy position manager) :
    HandedOutAt (calls ++ more) policy position manager := by
  have extends_of_some {call : Call}
      (present : calls[position]? = some call) :
      (calls ++ more)[position]? = some call ∧
        worldAt (calls ++ more) position = worldAt calls position := by
    have inCalls := (List.getElem?_eq_some_iff.1 present).1
    exact ⟨(List.getElem?_append_left inCalls).trans present,
      worldAt_append (Nat.le_of_lt inCalls)⟩
  cases handedOut with
  | given asked =>
      obtain ⟨present, same⟩ := extends_of_some asked.asks
      exact .given ⟨same ▸ asked.held, present, same ▸ asked.answer⟩
  | direct held binds =>
      obtain ⟨present, same⟩ := extends_of_some binds
      rw [← same] at held ⊢
      exact .direct held present

/-- Whether all trust managers of a table were handed out by calls. -/
def NamesHandedOut
    (calls : List Call)
    (table : Bindings TrustManager) : Prop :=
  ∀ name manager, table.find? name = some manager →
    ∃ made, HandedOutAt calls manager.policy made manager

theorem NamesHandedOut.append
    {table : Bindings TrustManager}
    (names : NamesHandedOut calls table) :
    NamesHandedOut (calls ++ more) table := by
  intro name manager bound
  obtain ⟨made, handedOut⟩ := names name manager bound
  exact ⟨made, handedOut.append⟩

theorem NamesHandedOut.assign
    {table : Bindings TrustManager}
    {name : String}
    (names : NamesHandedOut calls table)
    (handedOut : HandedOutAt calls policy position manager) :
    NamesHandedOut calls (table.assign name manager) := by
  intro other found bound
  rw [Bindings.find?_assign] at bound
  split at bound
  case isTrue =>
    obtain rfl := Option.some_inj.1 bound
    exact ⟨position, handedOut.bound.2.symm ▸ handedOut⟩
  case isFalse => exact names other found bound

/-- The world after all calls is the one at the position after them. -/
theorem worldAt_length : worldAt calls calls.length = initial.performAll calls := by
  rw [worldAt, stateAt, List.take_length]
  rfl

end Extensions

end World

namespace Session

/-- Whether a session has no trust managers but those that calls have handed out, and its
world is the one after these calls. -/
structure HasHandedOut
    (session : Session)
    (calls : List World.Call) : Prop where
  reached : session.world = World.initial.performAll calls
  managers : World.NamesHandedOut calls session.managers
  directManagers : World.NamesHandedOut calls session.directManagers

/-- Whether names stand for the same trust managers as before. -/
structure LeavesManagers (session next : Session) : Prop where
  managers : next.managers = session.managers
  directManagers : next.directManagers = session.directManagers

/-- What a session that calls have led to is shown by its trust managers. -/
structure ViewsPolicies
    (session : Session)
    (calls : List World.Call) : Prop where
  /-- A trust manager that a policy has given to the session, or that the session has bound
  to one, was handed out by a call, and views its policy since. -/
  views : ∀ name manager,
    session.managers.find? name = some manager ∨
      session.directManagers.find? name = some manager →
    ∃ made, World.HandedOutAt calls manager.policy made manager ∧
      World.Views calls manager.policy made manager
  /-- While the policy is alive, to ask for the issuers is to read the anchors of the policy. -/
  living : ∀ name manager, session.managers.find? name = some manager →
    session.world.isAlive manager.policy = true →
    let read := session.world.trustAnchors manager.policy
    session.step (.policy (.issuers name)) =
      (answerOf .certificates (read.1.map fun snapshot => snapshot.anchors.certificates),
        session.withWorld read.2)
  /-- Once the policy is dead, to ask for the issuers is refused and changes nothing. -/
  dead : ∀ name manager, session.managers.find? name = some manager →
    session.world.isAlive manager.policy = false →
    session.step (.policy (.issuers name)) =
      (.refused (.trustManager "the bound policy has been dropped"), session)

section Sessions

variable
  {session : Session}
  {calls : List World.Call}
  {policy : PolicyId}
  {manager : TrustManager}
  {name : String}

/-- Only requests for trust managers give names to them. -/
theorem leavesManagers_policyStep
    {step : PolicyStep}
    (notTakes : ∀ name kept, step ≠ .takeManager name kept)
    (notBinds : ∀ name kept, step ≠ .bindManager name kept) :
    session.LeadsTo session.LeavesManagers (step.run session) := by
  have unchanged : session.LeavesManagers session := ⟨rfl, rfl⟩
  cases step with
  | takeManager name kept => exact absurd rfl (notTakes name kept)
  | bindManager name kept => exact absurd rfl (notBinds name kept)
  | makeFactory _ | makeNotifier _ => exact ⟨rfl, rfl⟩
  | registerSource _ _ | registerPolicy _ _ | sameSnapshot _ _ | same _ _
  | sameConfiguration _ _ | sameManager _ _ =>
      exact leadsTo_bind unchanged fun _ _ => leadsTo_bind unchanged fun _ _ => ⟨rfl, rfl⟩
  | takeAnchors _ _ =>
      refine leadsTo_bind unchanged fun _ _ => ?_
      dsimp only
      split <;> exact ⟨rfl, rfl⟩
  | demand _ _ _ =>
      refine leadsTo_bind unchanged fun _ _ => ?_
      split <;> exact ⟨rfl, rfl⟩
  | view _ | describe _ | viewSnapshot _ | cached _ | invalidate _ | drop _ | factoryStats _
  | setFactoryFailing _ _ | issuers _ | viewManager _ | notifierStats _ | announce _ =>
      exact leadsTo_bind unchanged fun _ _ => ⟨rfl, rfl⟩

theorem leavesManagers_step
    {step : Step}
    (notTakes : ∀ name kept, step ≠ .policy (.takeManager name kept))
    (notBinds : ∀ name kept, step ≠ .policy (.bindManager name kept)) :
    session.LeavesManagers (session.step step).2 := by
  by_cases other : ∀ on, step ≠ .policy on
  · have leaves : session.LeavesPolicyObjects (session.step step).2 :=
      leavesPolicyObjects_step other
    exact ⟨leaves.managers, leaves.directManagers⟩
  · obtain ⟨on, same⟩ := not_forall.1 other
    obtain rfl := of_not_not same
    rw [step_eq_settle]
    refine leavesManagers_policyStep (fun name kept same => ?_) fun name kept same => ?_
    · exact notTakes name kept (congrArg Step.policy same)
    · exact notBinds name kept (congrArg Step.policy same)

namespace HasHandedOut

/-- A name that owns a policy owns one that has been built. -/
theorem holds
    (has : session.HasHandedOut calls)
    (owned : session.world.owners.find? name = some policy) :
    (World.worldAt calls calls.length).policies.Holds policy := by
  have counted : (World.worldAt calls calls.length).IsCounted [] := World.isCounted_worldAt
  rw [World.worldAt_length, ← has.reached] at counted ⊢
  exact counted.holds (counted.isAlive_of_find? owned)

/-- The call that is made next is carried out in the world of the session. -/
theorem at_next
    (has : session.HasHandedOut calls)
    (call : World.Call) :
    (calls ++ [call])[calls.length]? = some call ∧
      World.worldAt (calls ++ [call]) calls.length = session.world := by
  constructor
  · exact List.getElem?_concat_length
  · rw [World.worldAt_append (Nat.le_refl _), World.worldAt_length, has.reached]

/-- The trust manager that a living policy gives next is handed out. -/
theorem given
    (has : session.HasHandedOut calls)
    (owned : session.world.owners.find? name = some policy)
    (answer : (session.world.trustManager policy).1 = .ok manager) :
    World.HandedOutAt (calls ++ [.trustManager policy]) policy calls.length manager := by
  obtain ⟨present, here⟩ := has.at_next (.trustManager policy)
  refine .given ⟨?_, present, here.symm ▸ answer⟩
  rw [World.worldAt_append (Nat.le_refl _)]
  exact has.holds owned

/-- The trust manager that is bound to a policy next is handed out. -/
theorem direct
    (has : session.HasHandedOut calls)
    (owned : session.world.owners.find? name = some policy) :
    World.HandedOutAt (calls ++ [.bindManager policy]) policy calls.length
      (session.world.stampManager policy).1 := by
  obtain ⟨present, here⟩ := has.at_next (.bindManager policy)
  have held := has.holds owned
  rw [← World.worldAt_append (Nat.le_refl _), here] at held
  rw [← here]
  exact .direct (here.symm ▸ held) present

/-- A session whose names for trust managers stay goes on with those that it has. -/
theorem of_leaves
    {next : Session}
    {more : List World.Call}
    (has : session.HasHandedOut calls)
    (leaves : session.LeavesManagers next)
    (reached : next.world = session.world.performAll more) :
    next.HasHandedOut (calls ++ more) where
  reached := by
    rw [reached, has.reached, World.performAll, World.performAll, World.performAll,
      List.foldl_append]
  managers := by
    rw [leaves.managers]
    exact has.managers.append
  directManagers := by
    rw [leaves.directManagers]
    exact has.directManagers.append

theorem step_takeManager
    {name kept : String}
    (has : session.HasHandedOut calls) :
    (session.step (.policy (.takeManager name kept))).2.HasHandedOut
      (calls ++ session.calls (.policy (.takeManager name kept))) := by
  have reached := session.world_step (.policy (.takeManager name kept))
  have answered : session.step (.policy (.takeManager name kept)) = _ := step_eq_settle _
  cases owned : session.world.owners.find? name with
  | none =>
      rw [attempt, PolicyStep.run, Session.policy, settle_look_of_none owned] at answered
      refine has.of_leaves ?_ reached
      rw [answered]
      exact ⟨rfl, rfl⟩
  | some policy =>
      rw [attempt, PolicyStep.run, Session.policy, settle_look_of_some owned] at answered
      rcases answer : session.world.trustManager policy with ⟨raised | manager, world⟩
      · refine has.of_leaves ?_ reached
        rw [answered, answer]
        exact ⟨rfl, rfl⟩
      · have asks : session.calls (.policy (.takeManager name kept)) = [.trustManager policy] := by
          rw [Session.calls, PolicyStep.calls, Session.policy, look_eq_ok_iff.2 owned, callsOn_ok]
        rw [answer] at answered
        rw [answered, asks] at reached ⊢
        have before : (session.withWorld world).HasHandedOut (calls ++ [.trustManager policy]) :=
          has.of_leaves ⟨rfl, rfl⟩ reached
        have handedOut := has.given owned (congrArg Prod.fst answer)
        exact { before with managers := before.managers.assign handedOut }

theorem step_bindManager
    {name kept : String}
    (has : session.HasHandedOut calls) :
    (session.step (.policy (.bindManager name kept))).2.HasHandedOut
      (calls ++ session.calls (.policy (.bindManager name kept))) := by
  have reached := session.world_step (.policy (.bindManager name kept))
  have answered : session.step (.policy (.bindManager name kept)) = _ := step_eq_settle _
  cases owned : session.world.owners.find? name with
  | none =>
      rw [attempt, PolicyStep.run, Session.policy, settle_look_of_none owned] at answered
      refine has.of_leaves ?_ reached
      rw [answered]
      exact ⟨rfl, rfl⟩
  | some policy =>
      rw [attempt, PolicyStep.run, Session.policy, settle_look_of_some owned] at answered
      have binds : session.calls (.policy (.bindManager name kept)) = [.bindManager policy] := by
        rw [Session.calls, PolicyStep.calls, Session.policy, look_eq_ok_iff.2 owned, callsOn_ok]
      rw [answered, binds] at reached ⊢
      have before : (session.withWorld (session.world.stampManager policy).2).HasHandedOut
          (calls ++ [.bindManager policy]) := has.of_leaves ⟨rfl, rfl⟩ reached
      exact { before with directManagers := before.directManagers.assign (has.direct owned) }

theorem step
    (has : session.HasHandedOut calls)
    (step : Step) :
    (session.step step).2.HasHandedOut (calls ++ session.calls step) := by
  by_cases takes : ∃ name kept, step = .policy (.takeManager name kept)
  · obtain ⟨name, kept, rfl⟩ := takes
    exact has.step_takeManager
  by_cases binds : ∃ name kept, step = .policy (.bindManager name kept)
  · obtain ⟨name, kept, rfl⟩ := binds
    exact has.step_bindManager
  refine has.of_leaves (leavesManagers_step (fun name kept same => ?_) fun name kept same => ?_)
    (session.world_step step)
  · exact takes ⟨name, kept, same⟩
  · exact binds ⟨name, kept, same⟩

theorem run
    (has : session.HasHandedOut calls)
    (steps : List Step) :
    (session.run steps).2.HasHandedOut (calls ++ session.callsOfRun steps) := by
  induction steps generalizing session calls with
  | nil =>
      rw [callsOfRun, List.append_nil]
      exact has
  | cons step rest inductionHypothesis =>
      rw [callsOfRun, ← List.append_assoc]
      exact inductionHypothesis (has.step step)

/-- The trust managers that a session has view their policies. -/
theorem views
    (has : session.HasHandedOut calls)
    (bound : session.managers.find? name = some manager ∨
      session.directManagers.find? name = some manager) :
    ∃ made, World.HandedOutAt calls manager.policy made manager ∧
      World.Views calls manager.policy made manager := by
  have handedOut : ∃ made, World.HandedOutAt calls manager.policy made manager :=
    bound.elim (has.managers name manager) (has.directManagers name manager)
  exact handedOut.imp fun made handedOut => ⟨handedOut, World.views_of_handedOutAt handedOut⟩

theorem world_eq_worldAt
    (has : session.HasHandedOut calls) :
    session.world = World.worldAt calls calls.length :=
  has.reached.trans World.worldAt_length.symm

/-- A session is shown by a trust manager what its policy shows. -/
theorem viewsPolicies
    (has : session.HasHandedOut calls) :
    session.ViewsPolicies calls where
  views _ _ := has.views
  living name manager bound alive := by
    obtain ⟨_, _, views⟩ := has.views (.inl bound)
    rw [has.world_eq_worldAt] at alive
    obtain ⟨shown, -⟩ := views.living calls.length alive
    rw [← has.world_eq_worldAt] at shown
    rw [step_issuers bound, shown]
  dead name manager bound gone := by
    rw [step_issuers bound, World.acceptedIssuers_of_dead gone]
    rfl

end HasHandedOut

end Sessions

theorem hasHandedOut_initial : initial.HasHandedOut [] where
  reached := rfl
  managers _ _ bound := absurd bound (by simp [initial])
  directManagers _ _ bound := absurd bound (by simp [initial])

end Session

namespace TrustManager

/-- Every trust manager that calls hand out views its policy from then on, and so does
every one that a session was given or has bound, which shows it to the session. -/
theorem viewsItsPolicy :
    (∀ calls policy made manager, World.HandedOutAt calls policy made manager →
      World.Views calls policy made manager) ∧
    ∀ steps, (Session.initial.run steps).2.ViewsPolicies (Session.initial.callsOfRun steps) := by
  constructor
  · intro calls policy made manager handedOut
    exact World.views_of_handedOutAt handedOut
  · intro steps
    exact (Session.hasHandedOut_initial.run steps).viewsPolicies

/-- A trust manager from a counting factory is asked before and after the certificates of
the source were replaced and the anchors dropped, while the source fails, and when the
policy is gone. A session asks the trust manager of a policy while this has a name, and
after the name was dropped. -/
theorem viewsItsPolicy_of_changing_source :
    let source : SourceId := ⟨0⟩
    let policy : PolicyId := ⟨0⟩
    let manager : TrustManager := ⟨0, policy⟩
    let direct : TrustManager := ⟨1, policy⟩
    let calls : List World.Call :=
      [.addSource ⟨"store", .counting { certificates := [] }⟩, .addFactory,
        .buildChain "policy" [Builder.blank.addRef ⟨source, false⟩] (some ⟨0⟩),
        .trustManager policy, .acceptedIssuers manager,
        .changeSource source (.replace [World.namelessCertificate]), .invalidateAnchors policy,
        .changeSource source (.failing true), .disown "policy", .acceptedIssuers manager]
    let steps : List Step :=
      [.source (.decode "shared" World.namelessCertificate.der),
        .source (.make "store" "store" .memory ["shared"]),
        .builder (.make "builder" none [.addRef ⟨"store", false⟩]),
        .builder (.build "builder" "name" none), .policy (.takeManager "name" "manager"),
        .policy (.bindManager "name" "direct")]
    let before := (Session.initial.run steps).2
    let after := (Session.initial.run (steps ++ [.policy (.drop "name")])).2
    (World.HandedOutAt calls policy 3 manager ∧
      ((World.worldAt calls 4).acceptedIssuers manager).1 = .ok [] ∧
      ((World.worldAt calls 6).acceptedIssuers manager).1 = .ok [] ∧
      ((World.worldAt calls 7).acceptedIssuers manager).1 = .ok [World.namelessCertificate] ∧
      World.issuerQueriesAt calls manager 7 = [source] ∧
      ((World.worldAt calls 8).acceptedIssuers manager).1 =
        .error (.certificateSource "store" "store unavailable") ∧
      (World.worldAt calls 10).acceptedIssuers manager =
        (.error (.trustManager "the bound policy has been dropped"), World.worldAt calls 10)) ∧
    (∃ made, World.HandedOutAt (Session.initial.callsOfRun steps) policy made direct) ∧
    (before.step (.policy (.issuers "manager"))).1 =
      .certificates [World.namelessCertificate] ∧
    after.step (.policy (.issuers "manager")) =
      (.refused (.trustManager "the bound policy has been dropped"), after) := by
  intro source policy manager direct calls steps before after
  refine ⟨?_, ?_, ?_, ?_⟩
  · have held : (World.worldAt calls 3).policies.Holds policy := Nat.zero_lt_one
    have handedOut : World.HandedOutAt calls policy 3 manager :=
      .given ⟨held, rfl, by decide +kernel⟩
    have views := viewsItsPolicy.1 calls policy 3 manager handedOut
    obtain ⟨shown, -⟩ := views.populates 4 (by decide +kernel) (by decide +kernel)
    obtain ⟨reused, -⟩ :=
      views.reuses 6 ⟨1, AnchorSet.empty⟩ (by decide +kernel) (by decide +kernel)
    obtain ⟨followed, -⟩ := views.populates 7 (by decide +kernel) (by decide +kernel)
    obtain ⟨-, queried⟩ := views.living 7 (by decide +kernel)
    obtain ⟨failed, -⟩ := views.populates 8 (by decide +kernel) (by decide +kernel)
    obtain ⟨gone, -⟩ := views.dead 9 10 (by decide) (by decide) (by decide +kernel)
    refine ⟨handedOut, shown.trans ?_, congrArg Prod.fst reused, followed.trans ?_,
      queried.trans ?_, failed.trans ?_, gone⟩ <;> decide +kernel
  · have bound : before.directManagers.find? "direct" = some direct := by decide +kernel
    obtain ⟨made, handedOut, -⟩ := (viewsItsPolicy.2 steps).views "direct" direct (.inr bound)
    exact ⟨made, handedOut⟩
  · have bound : before.managers.find? "manager" = some manager := by decide +kernel
    have alive : before.world.isAlive policy = true := by decide +kernel
    have shown : ((before.world.trustAnchors policy).1.map
        fun snapshot => snapshot.anchors.certificates) = .ok [World.namelessCertificate] := by
      decide +kernel
    rw [(viewsItsPolicy.2 steps).living "manager" manager bound alive]
    exact congrArg (Session.answerOf .certificates) shown
  · have bound : after.managers.find? "manager" = some manager := by decide +kernel
    have gone : after.world.isAlive policy = false := by decide +kernel
    exact (viewsItsPolicy.2 _).dead "manager" manager bound gone

end TrustManager
end TrustPolicy
