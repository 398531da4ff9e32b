import TrustPolicy.Proofs.Calls

/-!
# Callers of a policy

Any number of callers read the anchors of a policy at once. A caller takes the
lock of the policy's cell, looks into the cell, queries the references one at a
time if it is empty, fills it unless a source fails, and lets go of the lock. An
invalidation waits until the lock is free. Between any two of these acts
anything may happen that has nothing to do with the policy's cell. A caller that
is not interrupted reads as if it did so at once.
-/

namespace TrustPolicy

/-- Where a caller stands. -/
inductive Caller
  | idle
  | waiting
  /-- The caller holds the lock and has not looked into the cell yet. -/
  | looking
  /-- The caller has found the cell empty and gathers the anchors of the references
  that are left. -/
  | gathering (gathered : AnchorSet) (rest : List EntryRef)
  /-- The caller has its result and still holds the lock. -/
  | leaving (result : Except PolicyError Snapshot)
  deriving DecidableEq

/-- Whether a caller holds the lock. -/
def Caller.isInside : Caller → Bool
  | .idle | .waiting => false
  | .looking | .gathering _ _ | .leaving _ => true

/-- Whether what a caller has found out about the cell is still so. -/
def Caller.Agrees
    (slot : Option Snapshot) : Caller → Prop
  | .gathering _ _ | .leaving (.error _) => slot = none
  | .leaving (.ok snapshot) => slot = some snapshot
  | .idle | .waiting | .looking => True

/-- A world with the lock of one policy's cell and the callers that read it. -/
structure Machine where
  world : World
  /-- The caller that holds the lock, if there is one. -/
  lock : Option Nat
  callers : Nat → Caller

/-- What can happen at a time. -/
inductive Act
  | call (caller : Nat)
  | acquire (caller : Nat)
  | look (caller : Nat)
  /-- Query the next reference. -/
  | query (caller : Nat)
  /-- Fill the cell with what was gathered. -/
  | store (caller : Nat)
  | release (caller : Nat)
  | invalidate
  /-- Any call that neither reads nor drops the anchors of the policy. -/
  | elsewhere (call : World.Call)

namespace Machine

/-- A world that nobody reads. -/
def atRest (world : World) : Machine := ⟨world, none, fun _ => .idle⟩

/-- The machine in which a caller stands somewhere else. -/
def place
    (machine : Machine)
    (caller : Nat)
    (spot : Caller) : Machine :=
  { machine with
    callers := fun other => if other = caller then spot else machine.callers other }

/-- The machine with another world. -/
def withWorld
    (machine : Machine)
    (world : World) : Machine :=
  { machine with world := world }

/-- The machine with the lock in other hands. -/
def withLock
    (machine : Machine)
    (lock : Option Nat) : Machine :=
  { machine with lock := lock }

/-- The references of the policy. -/
def refs
    (machine : Machine)
    (policy : PolicyId) : List EntryRef :=
  (machine.world.policies.get policy).settings.entryRefs

/-- The snapshot in the cell of the policy. -/
def slot
    (machine : Machine)
    (policy : PolicyId) : Option Snapshot :=
  (machine.world.policies.get policy).anchors.slot

/-- The world in which anchors that were gathered are in the cell of the policy. -/
def stored
    (machine : Machine)
    (policy : PolicyId)
    (gathered : AnchorSet) : Snapshot × World :=
  let (snapshot, stamped) := machine.world.stampSnapshot gathered
  (snapshot,
    (stamped.report (.computedAnchors gathered.size (machine.refs policy).length)).modifyPolicy
      policy fun current => { current with anchors := ⟨some snapshot⟩ })

/-- The machine after an act. An act that is not possible changes nothing. -/
def step
    (policy : PolicyId)
    (machine : Machine) : Act → Machine
  | .call caller =>
      match machine.callers caller with
      | .idle => machine.place caller .waiting
      | _ => machine
  | .acquire caller =>
      match machine.callers caller, machine.lock with
      | .waiting, none => (machine.place caller .looking).withLock (some caller)
      | _, _ => machine
  | .look caller =>
      match machine.callers caller, machine.slot policy with
      | .looking, some snapshot => machine.place caller (.leaving (.ok snapshot))
      | .looking, none =>
          machine.place caller (.gathering AnchorSet.empty (machine.refs policy))
      | _, _ => machine
  | .query caller =>
      match machine.callers caller with
      | .gathering gathered (entry :: rest) =>
          match machine.world.queryRef entry with
          | (.ok anchors, next) =>
              (machine.place caller (.gathering (gathered.extend anchors) rest)).withWorld next
          | (.error error, next) =>
              (machine.place caller (.leaving (.error error))).withWorld
                (next.report (.sourceFailed (machine.world.label entry.source) error))
      | _ => machine
  | .store caller =>
      match machine.callers caller with
      | .gathering gathered [] =>
          let (snapshot, next) := machine.stored policy gathered
          (machine.place caller (.leaving (.ok snapshot))).withWorld next
      | _ => machine
  | .release caller =>
      match machine.callers caller with
      | .leaving _ => (machine.place caller .idle).withLock none
      | _ => machine
  | .invalidate =>
      match machine.lock with
      | none => machine.withWorld (machine.world.invalidateAnchors policy)
      | some _ => machine
  | .elsewhere call =>
      if call.Reads machine.world policy ∨ call.Invalidates machine.world policy then machine
      else machine.withWorld (machine.world.perform call)

/-- What a possible act does. -/
inductive Moves
    (policy : PolicyId)
    (machine : Machine) : Act → Machine → Prop
  | call {caller : Nat}
      (idle : machine.callers caller = .idle) :
      machine.Moves policy (.call caller) (machine.place caller .waiting)
  | acquire {caller : Nat}
      (waiting : machine.callers caller = .waiting)
      (free : machine.lock = none) :
      machine.Moves policy (.acquire caller)
        ((machine.place caller .looking).withLock (some caller))
  /-- The caller finds the cell filled. -/
  | hit {caller : Nat} {snapshot : Snapshot}
      (looking : machine.callers caller = .looking)
      (filled : machine.slot policy = some snapshot) :
      machine.Moves policy (.look caller) (machine.place caller (.leaving (.ok snapshot)))
  /-- The caller finds the cell empty. -/
  | miss {caller : Nat}
      (looking : machine.callers caller = .looking)
      (unfilled : machine.slot policy = none) :
      machine.Moves policy (.look caller)
        (machine.place caller (.gathering AnchorSet.empty (machine.refs policy)))
  | query {caller : Nat} {gathered : AnchorSet} {entry : EntryRef} {rest : List EntryRef}
      {certificates : List Certificate}
      (gathering : machine.callers caller = .gathering gathered (entry :: rest))
      (answer : (machine.world.sources.get entry.source).certificates = .ok certificates) :
      machine.Moves policy (.query caller)
        ((machine.place caller
            (.gathering (gathered.extend (entry.anchorsOf certificates)) rest)).withWorld
          (machine.world.modifySource entry.source Source.queried))
  | fail {caller : Nat} {gathered : AnchorSet} {entry : EntryRef} {rest : List EntryRef}
      {error : PolicyError}
      (gathering : machine.callers caller = .gathering gathered (entry :: rest))
      (failure : (machine.world.sources.get entry.source).certificates = .error error) :
      machine.Moves policy (.query caller)
        ((machine.place caller
            (.leaving (.error
              (EntryRef.wrapError (machine.world.label entry.source) error)))).withWorld
          ((machine.world.modifySource entry.source Source.queried).report
            (.sourceFailed (machine.world.label entry.source)
              (EntryRef.wrapError (machine.world.label entry.source) error))))
  | store {caller : Nat} {gathered : AnchorSet}
      (gathering : machine.callers caller = .gathering gathered []) :
      machine.Moves policy (.store caller)
        ((machine.place caller (.leaving (.ok (machine.stored policy gathered).1))).withWorld
          (machine.stored policy gathered).2)
  | release {caller : Nat} {result : Except PolicyError Snapshot}
      (leaving : machine.callers caller = .leaving result) :
      machine.Moves policy (.release caller) ((machine.place caller .idle).withLock none)
  | invalidate
      (free : machine.lock = none) :
      machine.Moves policy .invalidate
        (machine.withWorld (machine.world.invalidateAnchors policy))
  | elsewhere {call : World.Call}
      (notReads : ¬call.Reads machine.world policy)
      (notInvalidates : ¬call.Invalidates machine.world policy) :
      machine.Moves policy (.elsewhere call)
        (machine.withWorld (machine.world.perform call))

section Steps

variable
  {policy : PolicyId}
  {machine next : Machine}
  {act : Act}
  {caller other : Nat}
  {spot : Caller}

@[simp] theorem callers_place_self : (machine.place caller spot).callers caller = spot :=
  if_pos rfl

theorem callers_place_of_ne
    (different : other ≠ caller) :
    (machine.place caller spot).callers other = machine.callers other :=
  if_neg different

@[simp] theorem callers_withWorld
    {world : World} :
    (machine.withWorld world).callers = machine.callers := rfl

@[simp] theorem callers_withLock
    {lock : Option Nat} :
    (machine.withLock lock).callers = machine.callers := rfl

@[simp] theorem world_withWorld
    {world : World} :
    (machine.withWorld world).world = world := rfl

@[simp] theorem world_withLock
    {lock : Option Nat} :
    (machine.withLock lock).world = machine.world := rfl

@[simp] theorem world_place : (machine.place caller spot).world = machine.world := rfl

@[simp] theorem lock_place : (machine.place caller spot).lock = machine.lock := rfl

@[simp] theorem place_withLock
    {lock : Option Nat} :
    (machine.withLock lock).place caller spot = (machine.place caller spot).withLock lock := rfl

@[simp] theorem place_withWorld
    {world : World} :
    (machine.withWorld world).place caller spot = (machine.place caller spot).withWorld world := rfl

@[simp] theorem withWorld_withWorld
    {first second : World} :
    (machine.withWorld first).withWorld second = machine.withWorld second := rfl

theorem callers_withWorld_self
    {world : World} :
    ((machine.place caller spot).withWorld world).callers caller = spot := callers_place_self

theorem callers_withLock_self
    {lock : Option Nat} :
    ((machine.place caller spot).withLock lock).callers caller = spot := callers_place_self

/-- An act is possible or changes nothing. -/
theorem step_cases
    (policy : PolicyId)
    (machine : Machine)
    (act : Act) :
    machine.step policy act = machine ∨ machine.Moves policy act (machine.step policy act) := by
  cases act with
  | call caller =>
      rw [step]
      split
      case h_1 idle => exact .inr (.call idle)
      case h_2 => exact .inl rfl
  | acquire caller =>
      rw [step]
      split
      case h_1 waiting free => exact .inr (.acquire waiting free)
      case h_2 => exact .inl rfl
  | look caller =>
      rw [step]
      split
      case h_1 looking filled => exact .inr (.hit looking filled)
      case h_2 looking unfilled => exact .inr (.miss looking unfilled)
      case h_3 => exact .inl rfl
  | query caller =>
      rw [step]
      split
      case h_1 gathered entry rest gathering =>
        refine .inr ?_
        cases supplied : (machine.world.sources.get entry.source).certificates with
        | ok certificates =>
            rw [World.queryRef_of_ok supplied]
            exact .query gathering supplied
        | error error =>
            rw [World.queryRef_of_error supplied]
            exact .fail gathering supplied
      case h_2 => exact .inl rfl
  | store caller =>
      rw [step]
      split
      case h_1 gathered gathering => exact .inr (.store gathering)
      case h_2 => exact .inl rfl
  | release caller =>
      rw [step]
      split
      case h_1 result leaving => exact .inr (.release leaving)
      case h_2 => exact .inl rfl
  | invalidate =>
      rw [step]
      split
      case h_1 free => exact .inr (.invalidate free)
      case h_2 => exact .inl rfl
  | elsewhere call =>
      rw [step]
      split
      case isTrue => exact .inl rfl
      case isFalse elsewhere =>
        exact .inr (.elsewhere (fun reads => elsewhere (.inl reads))
          fun invalidates => elsewhere (.inr invalidates))

/-! ## What every act keeps -/

/-- Whether the lock keeps callers apart, and the cell is as the callers that have
looked into it have found or left it. -/
structure Consistent
    (machine : Machine)
    (policy : PolicyId) : Prop where
  held : machine.world.policies.Holds policy
  locked : ∀ caller, (machine.callers caller).isInside = true ↔ machine.lock = some caller
  agrees : ∀ caller, (machine.callers caller).Agrees (machine.slot policy)

theorem consistent_atRest
    {world : World}
    (held : world.policies.Holds policy) :
    (atRest world).Consistent policy where
  held := held
  locked caller := by simp [atRest, Caller.isInside]
  agrees _ := trivial

/-- A caller that is outside has found out nothing. -/
theorem agrees_of_outside
    {slot : Option Snapshot}
    (outside : ¬spot.isInside = true) :
    spot.Agrees slot := by
  cases spot with
  | idle | waiting | looking => trivial
  | gathering _ _ | leaving _ => exact absurd rfl outside

/-- At most one caller is inside. -/
theorem Consistent.eq_of_isInside
    (consistent : machine.Consistent policy)
    (first : (machine.callers caller).isInside = true)
    (second : (machine.callers other).isInside = true) :
    caller = other :=
  Option.some_inj.1
    (((consistent.locked caller).1 first).symm.trans ((consistent.locked other).1 second))

/-- A caller that stays inside or outside may move if it agrees with the cell, and
may change the cell if it holds the lock. -/
theorem Consistent.place
    {world : World}
    (consistent : machine.Consistent policy)
    (held : world.policies.Holds policy)
    (sameSide : spot.isInside = (machine.callers caller).isInside)
    (agrees : spot.Agrees (world.policies.get policy).anchors.slot)
    (cell : (world.policies.get policy).anchors.slot = machine.slot policy ∨
      machine.lock = some caller) :
    ((machine.place caller spot).withWorld world).Consistent policy where
  held := held
  locked other := by
    change ((machine.place caller spot).callers other).isInside = true ↔
      machine.lock = some other
    rw [← consistent.locked]
    by_cases same : other = caller
    · subst same
      rw [callers_place_self, sameSide]
    · rw [callers_place_of_ne same]
  agrees other := by
    change ((machine.place caller spot).callers other).Agrees
      (world.policies.get policy).anchors.slot
    by_cases same : other = caller
    · subst same
      rw [callers_place_self]
      exact agrees
    · rw [callers_place_of_ne same]
      rcases cell with unchanged | locked
      · rw [unchanged]
        exact consistent.agrees other
      · refine agrees_of_outside fun inside => same ?_
        exact Option.some_inj.1 (((consistent.locked other).1 inside).symm.trans locked)

/-- A caller may take or hand back the lock if nobody else has it. -/
theorem Consistent.cross
    {lock : Option Nat}
    (consistent : machine.Consistent policy)
    (agrees : spot.Agrees (machine.slot policy))
    (here : spot.isInside = true ↔ lock = some caller)
    (elsewhere : ∀ other, other ≠ caller → (machine.lock = some other ↔ lock = some other)) :
    ((machine.place caller spot).withLock lock).Consistent policy where
  held := consistent.held
  locked other := by
    change ((machine.place caller spot).callers other).isInside = true ↔ lock = some other
    by_cases same : other = caller
    · subst same
      rw [callers_place_self, here]
    · rw [callers_place_of_ne same, consistent.locked, elsewhere other same]
  agrees other := by
    change ((machine.place caller spot).callers other).Agrees (machine.slot policy)
    by_cases same : other = caller
    · subst same
      rw [callers_place_self]
      exact agrees
    · rw [callers_place_of_ne same]
      exact consistent.agrees other

/-- The cell is empty while a caller gathers. -/
theorem Consistent.slot_of_gathering
    {gathered : AnchorSet}
    {rest : List EntryRef}
    (consistent : machine.Consistent policy)
    (gathering : machine.callers caller = .gathering gathered rest) :
    machine.slot policy = none := by
  have agrees := consistent.agrees caller
  rw [gathering] at agrees
  exact agrees

/-- The cell holds what a caller is about to return. -/
theorem Consistent.slot_of_ok
    {snapshot : Snapshot}
    (consistent : machine.Consistent policy)
    (leaving : machine.callers caller = .leaving (.ok snapshot)) :
    machine.slot policy = some snapshot := by
  have agrees := consistent.agrees caller
  rw [leaving] at agrees
  exact agrees

/-- The cell is empty while a caller is about to return an error. -/
theorem Consistent.slot_of_error
    {raised : PolicyError}
    (consistent : machine.Consistent policy)
    (leaving : machine.callers caller = .leaving (.error raised)) :
    machine.slot policy = none := by
  have agrees := consistent.agrees caller
  rw [leaving] at agrees
  exact agrees

theorem isInside_of_eq
    (here : machine.callers caller = spot)
    (inside : spot.isInside = true) :
    (machine.callers caller).isInside = true := by
  rw [here, inside]

theorem Consistent.moves
    (consistent : machine.Consistent policy)
    (moves : machine.Moves policy act next) :
    next.Consistent policy := by
  cases moves with
  | call idle =>
      exact consistent.place consistent.held (by rw [idle]; rfl) trivial (.inl rfl)
  | @acquire caller waiting free =>
      refine consistent.cross trivial (iff_of_true rfl rfl) fun other different => ?_
      rw [free]
      simp [Ne.symm different]
  | hit looking filled =>
      exact consistent.place consistent.held (by rw [looking]; rfl) filled (.inl rfl)
  | miss looking unfilled =>
      exact consistent.place consistent.held (by rw [looking]; rfl) unfilled (.inl rfl)
  | query gathering answer =>
      exact consistent.place consistent.held (by rw [gathering]; rfl)
        (consistent.slot_of_gathering gathering) (.inl rfl)
  | fail gathering failure =>
      exact consistent.place consistent.held (by rw [gathering]; rfl)
        (consistent.slot_of_gathering gathering) (.inl rfl)
  | @store caller gathered gathering =>
      have locked : machine.lock = some caller :=
        (consistent.locked caller).1 (isInside_of_eq gathering rfl)
      refine consistent.place ?_ (by rw [gathering]; rfl) ?_ (.inr locked)
      · exact Arena.holds_modify.2 consistent.held
      · exact congrArg (fun current => current.anchors.slot)
          (Arena.get_modify_self consistent.held)
  | @release caller result leaving =>
      have locked : machine.lock = some caller :=
        (consistent.locked caller).1 (isInside_of_eq leaving rfl)
      refine consistent.cross trivial (by simp [Caller.isInside]) fun other different => ?_
      rw [locked]
      simp [Ne.symm different]
  | invalidate free =>
      refine ⟨?_, consistent.locked, fun other => agrees_of_outside fun inside => ?_⟩
      · rw [withWorld, World.invalidateAnchors_eq]
        exact Arena.holds_modify.2 consistent.held
      · exact absurd (free.symm.trans ((consistent.locked other).1 inside)) (by simp)
  | elsewhere notReads notInvalidates =>
      obtain ⟨cell, same⟩ :=
        World.get_perform_of_neither consistent.held notReads notInvalidates
      refine ⟨World.holds_perform consistent.held, consistent.locked, fun other => ?_⟩
      rw [slot, withWorld, same]
      exact consistent.agrees other

theorem Consistent.step
    (consistent : machine.Consistent policy)
    (act : Act) :
    (machine.step policy act).Consistent policy := by
  rcases machine.step_cases policy act with same | moves
  · rw [same]
    exact consistent
  · exact consistent.moves moves

/-! ## What an act can change -/

/-- The references of the policy stay. -/
theorem Consistent.refs_moves
    (consistent : machine.Consistent policy)
    (moves : machine.Moves policy act next) :
    next.refs policy = machine.refs policy := by
  cases moves with
  | store gathering =>
      exact congrArg (fun current => current.settings.entryRefs)
        (Arena.get_modify_self consistent.held)
  | invalidate free =>
      have emptied : (machine.world.invalidateAnchors policy).policies.get policy =
          (machine.world.policies.get policy).emptied :=
        World.get_invalidateAnchors.trans (if_pos rfl)
      exact congrArg (fun current => current.settings.entryRefs) emptied
  | elsewhere notReads notInvalidates =>
      obtain ⟨cell, same⟩ :=
        World.get_perform_of_neither consistent.held notReads notInvalidates
      exact congrArg (fun current => current.settings.entryRefs) same
  | _ => rfl

/-- The cell changes only when a caller fills it with what it has gathered, or when it
is emptied while the lock is free. -/
theorem Consistent.slot_cases
    (consistent : machine.Consistent policy)
    (moves : machine.Moves policy act next) :
    next.slot policy = machine.slot policy ∨
      (act = .invalidate ∧ machine.lock = none ∧ next.slot policy = none) ∨
      ∃ caller gathered, machine.callers caller = .gathering gathered [] ∧
        next.slot policy = some (machine.stored policy gathered).1 := by
  cases moves with
  | @store caller gathered gathering =>
      refine .inr (.inr ⟨caller, gathered, gathering, ?_⟩)
      exact congrArg (fun current => current.anchors.slot)
        (Arena.get_modify_self consistent.held)
  | invalidate free =>
      have emptied : (machine.world.invalidateAnchors policy).policies.get policy =
          (machine.world.policies.get policy).emptied :=
        World.get_invalidateAnchors.trans (if_pos rfl)
      exact .inr (.inl ⟨rfl, free, congrArg (fun current => current.anchors.slot) emptied⟩)
  | elsewhere notReads notInvalidates =>
      obtain ⟨cell, same⟩ :=
        World.get_perform_of_neither consistent.held notReads notInvalidates
      exact .inl (congrArg (fun current => current.anchors.slot) same)
  | _ => exact .inl rfl

/-- The lock changes only when a caller takes it while it is free, or when the caller
that holds it hands it back. -/
theorem lock_cases
    (moves : machine.Moves policy act next) :
    next.lock = machine.lock ∨
      (∃ caller, act = .acquire caller ∧ machine.callers caller = .waiting ∧
        machine.lock = none ∧ next.lock = some caller) ∨
      ∃ caller result, act = .release caller ∧ machine.callers caller = .leaving result ∧
        next.lock = none := by
  cases moves with
  | acquire waiting free => exact .inr (.inl ⟨_, rfl, waiting, free, rfl⟩)
  | release leaving => exact .inr (.inr ⟨_, _, rfl, leaving, rfl⟩)
  | _ => exact .inl rfl

/-- A caller that is placed stands there, and all others stand where they did. -/
theorem callers_place_cases
    {found : Caller}
    (stands : (machine.place caller spot).callers other = found) :
    (other = caller ∧ spot = found) ∨ machine.callers other = found := by
  by_cases same : other = caller
  · subst same
    exact .inl ⟨rfl, callers_place_self.symm.trans stands⟩
  · exact .inr ((callers_place_of_ne same).symm.trans stands)

/-- A caller that gathers did so before, or has just found the cell empty, or has just
queried a reference. -/
theorem gathering_cases
    {gathered : AnchorSet}
    {rest : List EntryRef}
    (moves : machine.Moves policy act next)
    (gathering : next.callers caller = .gathering gathered rest) :
    machine.callers caller = .gathering gathered rest ∨
      (gathered = AnchorSet.empty ∧ rest = machine.refs policy) ∨
      ∃ before entry certificates, act = .query caller ∧
        machine.callers caller = .gathering before (entry :: rest) ∧
        (machine.world.sources.get entry.source).certificates = .ok certificates ∧
        gathered = before.extend (entry.anchorsOf certificates) := by
  cases moves with
  | miss looking unfilled =>
      rcases callers_place_cases gathering with ⟨-, here⟩ | before
      · cases here
        exact .inr (.inl ⟨rfl, rfl⟩)
      · exact .inl before
  | query found answer =>
      rcases callers_place_cases gathering with ⟨rfl, here⟩ | before
      · cases here
        exact .inr (.inr ⟨_, _, _, rfl, found, answer, rfl⟩)
      · exact .inl before
  | invalidate _ | elsewhere _ _ => exact .inl gathering
  | _ =>
      rcases callers_place_cases gathering with ⟨-, here⟩ | before
      · cases here
      · exact .inl before

end Steps

/-! ## A caller that is not interrupted -/

section Alone

variable
  {policy : PolicyId}
  {machine : Machine}
  {caller : Nat}

/-- The acts of a caller that is not interrupted, up to the last one, which lets go of
the lock. -/
def reading
    (caller : Nat)
    (queries : Nat) : List Act :=
  [.call caller, .acquire caller, .look caller] ++
    (List.replicate queries (.query caller) ++ [.store caller])

@[simp] theorem place_place
    {first second : Caller} :
    (machine.place caller first).place caller second = machine.place caller second := by
  simp only [place, mk.injEq, true_and]
  funext other
  split <;> rfl

theorem place_eq_self
    {spot : Caller}
    (here : machine.callers caller = spot) :
    machine.place caller spot = machine := by
  obtain ⟨world, lock, callers⟩ := machine
  simp only [place, mk.injEq, true_and]
  funext other
  split
  case isTrue same => rw [same, ← here]
  case isFalse => rfl

/-- A caller that has its result queries nothing more. -/
theorem foldl_query_of_leaving
    {result : Except PolicyError Snapshot}
    (leaving : machine.callers caller = .leaving result)
    (queries : Nat) :
    (List.replicate queries (.query caller)).foldl (step policy) machine = machine := by
  induction queries with
  | zero => rfl
  | succ queries inductionHypothesis =>
      have stays : machine.step policy (.query caller) = machine := by
        rw [step, leaving]
      rw [List.replicate_succ, List.foldl_cons, stays, inductionHypothesis]

/-- Queries that are not interrupted gather what they would gather at once. -/
theorem foldl_query
    {gathered : AnchorSet}
    {rest : List EntryRef}
    (gathering : machine.callers caller = .gathering gathered rest) :
    (List.replicate rest.length (.query caller)).foldl (step policy) machine =
      match machine.world.gather gathered rest with
      | (.ok anchors, next) => (machine.place caller (.gathering anchors [])).withWorld next
      | (.error error, next) => (machine.place caller (.leaving (.error error))).withWorld next := by
  induction rest generalizing machine gathered with
  | nil => exact (congrArg (withWorld · machine.world) (place_eq_self gathering)).symm
  | cons entry rest inductionHypothesis =>
      rw [List.length_cons, List.replicate_succ, List.foldl_cons]
      cases supplied : (machine.world.sources.get entry.source).certificates with
      | ok certificates =>
          have queried : machine.step policy (.query caller) =
              (machine.place caller
                (.gathering (gathered.extend (entry.anchorsOf certificates)) rest)).withWorld
                  (machine.world.modifySource entry.source Source.queried) := by
            simp only [step, gathering, World.queryRef_of_ok supplied]
          rw [queried, inductionHypothesis callers_withWorld_self, World.gather_cons,
            World.queryRef_of_ok supplied]
          simp only [place_withWorld, place_place, withWorld_withWorld, world_withWorld]
      | error error =>
          have failed : machine.step policy (.query caller) =
              (machine.place caller (.leaving (.error
                (EntryRef.wrapError (machine.world.label entry.source) error)))).withWorld
                  ((machine.world.modifySource entry.source Source.queried).report
                    (.sourceFailed (machine.world.label entry.source)
                      (EntryRef.wrapError (machine.world.label entry.source) error))) := by
            simp only [step, gathering, World.queryRef_of_error supplied]
          rw [failed, foldl_query_of_leaving callers_withWorld_self,
            World.gather_cons_of_error rest supplied]

/-- A caller that is not interrupted reads as if it did so at once. -/
theorem foldl_reading
    (idle : machine.callers caller = .idle)
    (free : machine.lock = none) :
    (reading caller (machine.refs policy).length).foldl (step policy) machine =
      ((machine.place caller (.leaving (machine.world.trustAnchors policy).1)).withLock
        (some caller)).withWorld (machine.world.trustAnchors policy).2 := by
  have called : machine.step policy (.call caller) = machine.place caller .waiting := by
    rw [step, idle]
  have acquired : (machine.place caller .waiting).step policy (.acquire caller) =
      (machine.place caller .looking).withLock (some caller) := by
    simp only [step, callers_place_self, lock_place, free, place_place]
  rw [reading, List.foldl_append, List.foldl_append]
  simp only [List.foldl_cons, List.foldl_nil, called, acquired]
  cases cached : machine.slot policy with
  | some snapshot =>
      have looked : ((machine.place caller .looking).withLock (some caller)).step policy
          (.look caller) =
            (machine.place caller (.leaving (.ok snapshot))).withLock (some caller) := by
        have filled : ((machine.place caller .looking).withLock (some caller)).slot policy =
            some snapshot := cached
        simp only [step, callers_withLock, callers_place_self, filled, place_withLock, place_place]
      rw [looked, foldl_query_of_leaving callers_withLock_self, step]
      simp only [callers_withLock, callers_place_self,
        World.trustAnchors_of_slot_eq_some cached]
      rfl
  | none =>
      have looked : ((machine.place caller .looking).withLock (some caller)).step policy
          (.look caller) =
            (machine.place caller (.gathering AnchorSet.empty (machine.refs policy))).withLock
              (some caller) := by
        have unfilled : ((machine.place caller .looking).withLock (some caller)).slot policy =
            none := cached
        simp only [step, callers_withLock, callers_place_self, unfilled, place_withLock,
          place_place]
        rfl
      rw [looked, foldl_query callers_withLock_self]
      have samePolicies : (machine.world.gather AnchorSet.empty (machine.refs policy)).2.policies =
          machine.world.policies := World.policies_gather
      rcases gathers : machine.world.gather AnchorSet.empty (machine.refs policy) with
        ⟨error | gathered, next⟩
      · rw [gathers] at samePolicies
        rw [World.trustAnchors_of_aggregate_error (CacheCell.isPopulated_of_slot_eq_none cached)
          (World.aggregate_of_gather_error gathers) samePolicies]
        simp only [world_withLock, world_place, gathers, place_withLock, place_place, step,
          callers_withWorld, callers_withLock, callers_place_self]
      · rw [gathers] at samePolicies
        have sameRefs : (((machine.place caller (.gathering gathered [])).withLock
            (some caller)).withWorld next).refs policy = machine.refs policy :=
          congrArg (fun policies => (policies.get policy).settings.entryRefs) samePolicies
        rw [World.trustAnchors_of_aggregate_ok (CacheCell.isPopulated_of_slot_eq_none cached)
          (World.aggregate_of_gather_ok gathers)]
        simp only [world_withLock, world_place, gathers, place_withLock, place_place, step,
          callers_withWorld, callers_withLock, callers_place_self, place_withWorld, stored,
          withWorld_withWorld]
        rw [sameRefs]
        rfl

end Alone

end Machine
end TrustPolicy
