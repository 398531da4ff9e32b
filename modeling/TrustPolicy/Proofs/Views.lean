import TrustPolicy.Proofs.Liveness
import TrustPolicy.Proofs.Managers
import TrustPolicy.Proofs.SessionCalls

/-!
# Trust managers as views

A trust manager shows the anchors of its policy and nothing of its own. While the
policy is alive, a request for its issuers is a read of the policy's anchors, so it
follows every invalidation although the trust manager stays the same. Once the policy
is gone, all requests fail and touch nothing.
-/

namespace TrustPolicy
namespace World

/-- Whether the call at a position hands out a trust manager that is bound to a policy. -/
inductive HandedOutAt
    (calls : List Call)
    (policy : PolicyId)
    (position : Nat) : TrustManager → Prop
  /-- The policy gives its own, which its factory has made, or the default one if it
  has none. -/
  | given
      {manager : TrustManager}
      (asked : AskedAt calls policy position (.ok manager)) :
      HandedOutAt calls policy position manager
  /-- One is bound to the policy without asking it. -/
  | direct
      (held : (worldAt calls position).policies.Holds policy)
      (binds : calls[position]? = some (.bindManager policy)) :
      HandedOutAt calls policy position ((worldAt calls position).stampManager policy).1

/-- The sources that a trust manager would query at a position, in order. -/
def issuerQueriesAt
    (calls : List Call)
    (manager : TrustManager)
    (position : Nat) : List SourceId :=
  Call.queries (worldAt calls position) (.acceptedIssuers manager)

section Single

variable
  {world : World}
  {policy : PolicyId}
  {manager : TrustManager}
  {snapshot : Snapshot}
  {issuers : List Certificate}
  {raised : PolicyError}

/-! ## Single requests -/

theorem queries_acceptedIssuers_of_dead
    (dead : world.isAlive manager.policy = false) :
    Call.queries world (.acceptedIssuers manager) = [] := by
  rw [Call.queries, dead]
  rfl

/-- A trust manager queries the sources that a read of its policy's anchors queries. -/
theorem queries_acceptedIssuers_of_alive
    (alive : world.isAlive manager.policy = true) :
    Call.queries world (.acceptedIssuers manager) =
      Call.queries world (.trustAnchors manager.policy) :=
  if_pos alive

/-- A trust manager shows the anchors that its policy has cached. -/
theorem acceptedIssuers_of_slot_eq_some
    (alive : world.isAlive manager.policy = true)
    (cached : (world.policies.get manager.policy).anchors.slot = some snapshot) :
    world.acceptedIssuers manager = (.ok snapshot.anchors.certificates, world) := by
  rw [acceptedIssuers_of_alive alive, trustAnchors_of_slot_eq_some cached]
  rfl

/-- A trust manager whose policy has cached nothing shows what the sources supply now. -/
theorem acceptedIssuers_fst_of_slot_eq_none
    (alive : world.isAlive manager.policy = true)
    (unfilled : (world.policies.get manager.policy).anchors.slot = none) :
    (world.acceptedIssuers manager).1 =
      (world.currentAnchors manager.policy).map (List.map Anchor.certificate) := by
  rw [acceptedIssuers_of_alive alive, ← trustAnchors_fst_of_slot_eq_none unfilled]
  cases (world.trustAnchors manager.policy).1 <;> rfl

/-- A trust manager whose policy has cached nothing fills the cell of the policy with what
it shows. -/
theorem exists_slot_of_acceptedIssuers
    (held : world.policies.Holds manager.policy)
    (alive : world.isAlive manager.policy = true)
    (unfilled : (world.policies.get manager.policy).anchors.slot = none)
    (answer : (world.acceptedIssuers manager).1 = .ok issuers) :
    ∃ snapshot,
      ((world.acceptedIssuers manager).2.policies.get manager.policy).anchors.slot =
          some snapshot ∧
        snapshot.anchors.certificates = issuers := by
  rw [acceptedIssuers_of_alive alive] at answer ⊢
  cases read : (world.trustAnchors manager.policy).1 with
  | error raised => exact absurd (read ▸ answer) (by simp [Except.map])
  | ok snapshot =>
      rw [read] at answer
      obtain ⟨-, -, -, -, filled⟩ := trustAnchors_computes held unfilled read
      exact ⟨snapshot, filled, Except.ok.inj answer⟩

/-- A read of anchors fails only because a source does. -/
theorem trustAnchors_error
    (answer : (world.trustAnchors policy).1 = .error raised) :
    ∃ label cause, raised = .certificateSource label cause := by
  have wrapped (label : String) (error : PolicyError) :
      ∃ source cause, EntryRef.wrapError label error = .certificateSource source cause := by
    cases error <;> exact ⟨_, _, rfl⟩
  rcases world.trustAnchors_cases policy with
    ⟨_, _, cached⟩ | ⟨-, ⟨_, _, computed⟩ | ⟨found, _, fails, failed⟩⟩
  · exact absurd (cached ▸ answer) (by simp)
  · exact absurd (computed ▸ answer) (by simp)
  · obtain rfl : found = raised := by simpa [failed] using answer
    obtain ⟨_, _, _, _, _, _, _, rfl, _⟩ := exists_failing_of_contributions_error fails
    exact wrapped _ _

/-- A trust manager fails because its policy is dead, or because a source fails. -/
theorem acceptedIssuers_error
    (answer : (world.acceptedIssuers manager).1 = .error raised) :
    world.isAlive manager.policy = false ∧
        raised = .trustManager "the bound policy has been dropped" ∨
      world.isAlive manager.policy = true ∧
        ∃ label cause, raised = .certificateSource label cause := by
  cases alive : world.isAlive manager.policy with
  | false =>
      rw [acceptedIssuers_of_dead alive] at answer
      exact .inl ⟨rfl, (Except.error.inj answer).symm⟩
  | true =>
      rw [acceptedIssuers_of_alive alive] at answer
      refine .inr ⟨rfl, ?_⟩
      cases read : (world.trustAnchors manager.policy).1 with
      | ok snapshot => exact absurd (read ▸ answer) (by simp [Except.map])
      | error found =>
          obtain rfl : found = raised := by simpa [read, Except.map] using answer
          exact trustAnchors_error read

end Single

section Views

variable
  {calls : List Call}
  {policy : PolicyId}
  {manager : TrustManager}
  {made died dropped position : Nat}
  {issuers : List Certificate}

/-! ## Runs -/

/-- The trust manager of a policy is bound to it. -/
theorem policy_of_managerAt
    (cached : managerAt calls policy position = some manager) :
    manager.policy = policy := by
  induction position with
  | zero =>
      have unheld : ¬(worldAt calls 0).policies.Holds policy := Nat.not_lt_zero _
      exact absurd (holds_of_managerAt cached) unheld
  | succ position inductionHypothesis =>
      by_cases asks : calls[position]? = some (.trustManager policy)
      case neg =>
        rw [managerAt_succ_of_ne asks] at cached
        exact inductionHypothesis cached
      have held : (worldAt calls position).policies.Holds policy := by
        have heldLater := holds_of_managerAt cached
        rw [World.worldAt_succ asks] at heldLater
        exact (holds_perform_of_not_mayBuild id).1 heldLater
      cases before : managerAt calls policy position with
      | some found =>
          have asked : AskedAt calls policy position _ := ⟨held, asks, rfl⟩
          rw [managerAt, (asked.of_filled before).2, ← managerAt] at cached
          exact inductionHypothesis cached
      | none =>
          -- The cell is filled by this request, so the request was granted.
          cases answer : ((worldAt calls position).trustManager policy).1 with
          | error raised =>
              have asked : AskedAt calls policy position (.error raised) := ⟨held, asks, answer⟩
              exact absurd (asked.of_error.2.1.symm.trans cached) (by simp)
          | ok granted =>
              have asked : AskedAt calls policy position (.ok granted) := ⟨held, asks, answer⟩
              obtain ⟨rfl, filled⟩ := asked.of_unfilled before
              exact congrArg TrustManager.policy (Option.some_inj.1 (cached.symm.trans filled))

theorem isCounted_worldAt : (worldAt calls position).IsCounted [] :=
  isCounted_initial.performAll

/-- A policy that is dead stays dead, whatever is called. -/
theorem dead_of_le
    (ordered : died ≤ position)
    (held : (worldAt calls died).policies.Holds policy)
    (dead : (worldAt calls died).isAlive policy = false) :
    (worldAt calls position).isAlive policy = false := by
  have staysDead : (worldAt calls position).policies.Holds policy ∧
      (worldAt calls position).isAlive policy = false := by
    refine stateAt_of_le
      (motive := fun world : World => world.policies.Holds policy ∧ world.isAlive policy = false)
      ordered ⟨held, dead⟩ ?_
    rintro earlier call - - - ⟨heldBefore, deadBefore⟩
    refine ⟨holds_perform heldBefore, Bool.eq_false_iff.2 fun alive => ?_⟩
    exact absurd (isAlive_of_isAlive_perform isCounted_worldAt heldBefore alive)
      (by simp [deadBefore])
  exact staysDead.2

/-- A trust manager is handed out by a policy that has been built, and is bound to it. -/
theorem HandedOutAt.bound
    (handedOut : HandedOutAt calls policy made manager) :
    (worldAt calls made).policies.Holds policy ∧ manager.policy = policy := by
  cases handedOut with
  | direct held _ => exact ⟨held, rfl⟩
  | given asked => exact ⟨asked.held, policy_of_managerAt asked.managerAt_succ⟩

/-- Anchors that are cached, or that would be computed now, are what the sources supplied at
a moment after every earlier invalidation. -/
theorem exists_currentAnchors_of_acceptedIssuers
    (alive : (worldAt calls position).isAlive manager.policy = true)
    (answer : ((worldAt calls position).acceptedIssuers manager).1 = .ok issuers) :
    ∃ moment anchors, moment ≤ position ∧
      (worldAt calls moment).currentAnchors manager.policy = .ok anchors ∧
      issuers = anchors.map Anchor.certificate ∧
      ∀ dropped, dropped < position → InvalidatedAt calls manager.policy dropped →
        dropped < moment := by
  cases cached : cachedAt calls manager.policy position with
  | some snapshot =>
      obtain ⟨moment, earlier, read, unfilled, kept⟩ := exists_read_of_cachedAt cached
      obtain ⟨-, -, current, -⟩ := read.of_unfilled unfilled
      rw [acceptedIssuers_of_slot_eq_some alive cached] at answer
      refine ⟨moment, _, Nat.le_of_lt earlier, current, (Except.ok.inj answer).symm, ?_⟩
      intro dropped before invalidated
      exact Nat.lt_of_not_le fun momentLe => kept dropped momentLe before invalidated
  | none =>
      rw [acceptedIssuers_fst_of_slot_eq_none alive cached] at answer
      cases current : (worldAt calls position).currentAnchors manager.policy with
      | error raised => exact absurd (current ▸ answer) (by simp [Except.map])
      | ok anchors =>
          refine ⟨position, anchors, Nat.le_refl _, current, ?_, fun _ before _ => before⟩
          rw [current] at answer
          exact (Except.ok.inj answer).symm

/-! ## Views -/

/-- What a trust manager shows of its policy from the position on at which it is handed
out, and how it fails. -/
structure Views
    (calls : List Call)
    (policy : PolicyId)
    (made : Nat)
    (manager : TrustManager) : Prop where
  bound : manager.policy = policy
  /-- While the policy is alive, a request for the issuers is a read of the policy's
  anchors: it answers with their certificates, in order, or with the error of the read,
  queries the same sources, and leaves the same world. -/
  living : ∀ position, (worldAt calls position).isAlive policy = true →
    (worldAt calls position).acceptedIssuers manager =
        (((worldAt calls position).trustAnchors policy).1.map
            fun snapshot => snapshot.anchors.certificates,
          ((worldAt calls position).trustAnchors policy).2) ∧
      issuerQueriesAt calls manager position =
        Call.queries (worldAt calls position) (.trustAnchors policy)
  /-- What the policy has cached is shown as it is, without a query. -/
  reuses : ∀ position snapshot, (worldAt calls position).isAlive policy = true →
    cachedAt calls policy position = some snapshot →
    (worldAt calls position).acceptedIssuers manager =
        (.ok snapshot.anchors.certificates, worldAt calls position) ∧
      issuerQueriesAt calls manager position = []
  /-- If nothing is cached, what the sources supply now is shown, and a request that
  succeeds fills the cell of the policy with it. -/
  populates : ∀ position, (worldAt calls position).isAlive policy = true →
    cachedAt calls policy position = none →
    let answer := (worldAt calls position).acceptedIssuers manager
    answer.1 =
        ((worldAt calls position).currentAnchors policy).map (List.map Anchor.certificate) ∧
      ∀ issuers, answer.1 = .ok issuers →
        ∃ snapshot, (answer.2.policies.get policy).anchors.slot = some snapshot ∧
          snapshot.anchors.certificates = issuers
  /-- After an invalidation, what is shown was supplied after it. -/
  follows : ∀ dropped position issuers, InvalidatedAt calls policy dropped →
    dropped < position → (worldAt calls position).isAlive policy = true →
    ((worldAt calls position).acceptedIssuers manager).1 = .ok issuers →
    ∃ moment anchors, dropped < moment ∧ moment ≤ position ∧
      (worldAt calls moment).currentAnchors policy = .ok anchors ∧
      issuers = anchors.map Anchor.certificate
  /-- A trust manager that the policy has given is the one that it gives ever after. -/
  kept : AskedAt calls policy made (.ok manager) → ∀ position, made < position →
    managerAt calls policy position = some manager ∧
      ∀ result, AskedAt calls policy position result → result = .ok manager
  /-- Once the policy is dead, all requests fail, query nothing, and change nothing. -/
  dead : ∀ died position, made < died → died ≤ position →
    (worldAt calls died).isAlive policy = false →
    (worldAt calls position).acceptedIssuers manager =
        (.error (.trustManager "the bound policy has been dropped"),
          worldAt calls position) ∧
      issuerQueriesAt calls manager position = []
  /-- There are no other errors than this one, of dead policies only, and those of
  sources. -/
  errors : ∀ position raised,
    ((worldAt calls position).acceptedIssuers manager).1 = .error raised →
    (worldAt calls position).isAlive policy = false ∧
        raised = .trustManager "the bound policy has been dropped" ∨
      (worldAt calls position).isAlive policy = true ∧
        ∃ label cause, raised = .certificateSource label cause

/-- Every trust manager that is handed out in a run views its policy. -/
theorem views_of_handedOutAt
    (handedOut : HandedOutAt calls policy made manager) :
    Views calls policy made manager := by
  obtain ⟨held, rfl⟩ := handedOut.bound
  exact {
    bound := rfl
    living := fun position alive =>
      ⟨acceptedIssuers_of_alive alive, queries_acceptedIssuers_of_alive alive⟩
    reuses := fun position snapshot alive cached =>
      ⟨acceptedIssuers_of_slot_eq_some alive cached,
        (queries_acceptedIssuers_of_alive alive).trans (readQueries_of_slot_eq_some cached)⟩
    populates := by
      intro position alive unfilled
      have heldHere : (worldAt calls position).policies.Holds manager.policy :=
        isCounted_worldAt.holds alive
      exact ⟨acceptedIssuers_fst_of_slot_eq_none alive unfilled, fun issuers =>
        exists_slot_of_acceptedIssuers heldHere alive unfilled⟩
    follows := by
      intro dropped position issuers invalidated before alive answer
      obtain ⟨moment, anchors, le, current, shown, afterDrops⟩ :=
        exists_currentAnchors_of_acceptedIssuers alive answer
      exact ⟨moment, anchors, afterDrops dropped before invalidated, le, current, shown⟩
    kept := by
      intro asked position later
      have cached := managerAt_of_le later asked.managerAt_succ
      exact ⟨cached, fun result again => (again.of_filled cached).1⟩
    dead := by
      intro died position later ordered dead
      have heldThen : (worldAt calls died).policies.Holds manager.policy :=
        (holds_and_refsAt_of_le (Nat.le_of_lt later) held).1
      have stillDead := dead_of_le ordered heldThen dead
      exact ⟨acceptedIssuers_of_dead stillDead, queries_acceptedIssuers_of_dead stillDead⟩
    errors := fun position raised => acceptedIssuers_error }

end Views

end World

/-- A session that asks a trust manager for the issuers passes the request on to it. -/
theorem Session.step_issuers
    {session : Session}
    {name : String}
    {manager : TrustManager}
    (bound : session.managers.find? name = some manager) :
    session.step (.policy (.issuers name)) =
      (answerOf .certificates (session.world.acceptedIssuers manager).1,
        session.withWorld (session.world.acceptedIssuers manager).2) := by
  rw [step_eq_settle, attempt, PolicyStep.run, settle_look_of_some bound]
  rfl

end TrustPolicy
