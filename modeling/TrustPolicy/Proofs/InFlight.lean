import Mathlib.Tactic.IntervalCases
import TrustPolicy.Proofs.Aggregation
import TrustPolicy.Proofs.Callers
import TrustPolicy.Proofs.Runs
import TrustPolicy.Proofs.SessionCalls

/-!
# Reads in flight

Callers read the anchors of a policy in any interleaving with each other, with
invalidations, and with changes of the sources, also in the middle of a read. No
stale anchors come back: all that a caller is given was supplied after the last
invalidation that was completed before it took the lock.
-/

namespace TrustPolicy
namespace Machine

/-- The machine in which the act at a position of a run is carried out. -/
abbrev machineAt
    (policy : PolicyId)
    (world : World)
    (acts : List Act)
    (position : Nat) : Machine :=
  stateAt (step policy) (atRest world) acts position

/-- Whether a caller takes the lock at a position. -/
structure AcquiredAt
    (policy : PolicyId)
    (world : World)
    (acts : List Act)
    (position caller : Nat) : Prop where
  present : acts[position]? = some (.acquire caller)
  waiting : (machineAt policy world acts position).callers caller = .waiting
  free : (machineAt policy world acts position).lock = none

/-- Whether a caller hands back the lock at a position and is given a result. -/
structure ReturnedAt
    (policy : PolicyId)
    (world : World)
    (acts : List Act)
    (position caller : Nat)
    (result : Except PolicyError Snapshot) : Prop where
  present : acts[position]? = some (.release caller)
  leaving : (machineAt policy world acts position).callers caller = .leaving result

/-- Whether the anchors of the policy are dropped at a position. -/
structure DroppedAt
    (policy : PolicyId)
    (world : World)
    (acts : List Act)
    (position : Nat) : Prop where
  present : acts[position]? = some .invalidate
  free : (machineAt policy world acts position).lock = none

/-- Whether a caller takes the lock at one position and is given its result at another. -/
structure CallAt
    (policy : PolicyId)
    (world : World)
    (acts : List Act)
    (caller acquired returned : Nat)
    (result : Except PolicyError Snapshot) : Prop where
  acquires : AcquiredAt policy world acts acquired caller
  ordered : acquired < returned
  returns : ReturnedAt policy world acts returned caller result
  /-- It is the first result that the caller is given since. -/
  first : ∀ between other, acquired < between → between < returned →
    ¬ReturnedAt policy world acts between caller other

/-- The anchors that references contributed when a caller queried them, one after
another, from one position on and before another one. -/
inductive Contributed
    (policy : PolicyId)
    (world : World)
    (acts : List Act)
    (caller since : Nat) : Nat → List EntryRef → List Anchor → Prop
  | nothing (now : Nat) : Contributed policy world acts caller since now [] []
  | query {position now : Nat} {entries : List EntryRef} {anchors : List Anchor}
      {entry : EntryRef} {certificates : List Certificate}
      (earlier : Contributed policy world acts caller since position entries anchors)
      (queried : acts[position]? = some (.query caller))
      (answer : ((machineAt policy world acts position).world.sources.get
        entry.source).certificates = .ok certificates)
      (notBefore : since ≤ position)
      (before : position < now) :
      Contributed policy world acts caller since now (entries ++ [entry])
        (anchors ++ entry.anchorsOf certificates)

section Runs

variable
  {policy : PolicyId}
  {world : World}
  {acts : List Act}
  {position later caller since acquired returned : Nat}
  {entries : List EntryRef}
  {anchors : List Anchor}
  {result : Except PolicyError Snapshot}
  {snapshot : Snapshot}

theorem Contributed.mono
    (contributed : Contributed policy world acts caller since position entries anchors)
    (ordered : position ≤ later) :
    Contributed policy world acts caller since later entries anchors := by
  cases contributed with
  | nothing => exact .nothing later
  | query earlier queried answer notBefore before =>
      exact .query earlier queried answer notBefore (Nat.lt_of_lt_of_le before ordered)

/-! ## Single positions -/

theorem machineAt_succ_cases
    (policy : PolicyId)
    (world : World)
    (acts : List Act)
    (position : Nat) :
    machineAt policy world acts (position + 1) = machineAt policy world acts position ∨
      ∃ act, acts[position]? = some act ∧
        (machineAt policy world acts position).Moves policy act
          (machineAt policy world acts (position + 1)) := by
  cases present : acts[position]? with
  | none => exact .inl (stateAt_succ_of_none present)
  | some act =>
      rw [machineAt, stateAt_succ_of_some present]
      exact ((machineAt policy world acts position).step_cases policy act).imp_right
        fun moves => ⟨act, rfl, moves⟩

theorem consistentAt
    (held : world.policies.Holds policy)
    (position : Nat) :
    (machineAt policy world acts position).Consistent policy :=
  stateAt_of_le (motive := fun machine : Machine => machine.Consistent policy)
    (Nat.zero_le position) (consistent_atRest held) fun _ act _ _ _ consistent =>
      consistent.step act

theorem refs_machineAt
    (held : world.policies.Holds policy)
    (position : Nat) :
    (machineAt policy world acts position).refs policy = (atRest world).refs policy := by
  induction position with
  | zero => rfl
  | succ position inductionHypothesis =>
      rcases machineAt_succ_cases policy world acts position with same | ⟨_, _, moves⟩
      · rw [same, inductionHypothesis]
      · rw [(consistentAt held position).refs_moves moves, inductionHypothesis]

/-- Nothing is dropped while a caller is inside. -/
theorem not_droppedAt_of_isInside
    (held : world.policies.Holds policy)
    (inside : ((machineAt policy world acts position).callers caller).isInside = true) :
    ¬DroppedAt policy world acts position := by
  intro dropped
  have locked := ((consistentAt held position).locked caller).1 inside
  exact absurd (dropped.free.symm.trans locked) (by simp)

/-- The cell is empty after its anchors were dropped. -/
theorem DroppedAt.slot_succ
    (dropped : DroppedAt policy world acts position) :
    (machineAt policy world acts (position + 1)).slot policy = none := by
  have emptied : ((machineAt policy world acts position).world.invalidateAnchors
      policy).policies.get policy =
        ((machineAt policy world acts position).world.policies.get policy).emptied :=
    World.get_invalidateAnchors.trans (if_pos rfl)
  rw [machineAt, stateAt_succ_of_some dropped.present, step, dropped.free]
  exact congrArg (fun current => current.anchors.slot) emptied

/-- What is in the cell stays until it is dropped. -/
theorem slot_succ_of_kept
    (held : world.policies.Holds policy)
    (filled : (machineAt policy world acts position).slot policy = some snapshot)
    (kept : ¬DroppedAt policy world acts position) :
    (machineAt policy world acts (position + 1)).slot policy = some snapshot := by
  rcases machineAt_succ_cases policy world acts position with same | ⟨act, present, moves⟩
  · rw [same, filled]
  · have consistent : (machineAt policy world acts position).Consistent policy :=
      consistentAt held position
    rcases consistent.slot_cases moves with
      unchanged | ⟨rfl, free, -⟩ | ⟨caller, gathered, gathering, -⟩
    · rw [unchanged, filled]
    · exact absurd ⟨present, free⟩ kept
    · have unfilled := consistent.slot_of_gathering gathering
      exact absurd (unfilled.symm.trans filled) (by simp)

/-! ## Where anchors come from -/

/-- What a caller has gathered was contributed since it looked into the cell, and
nothing was dropped since. -/
theorem contributed_of_gathering
    {gathered : AnchorSet}
    {rest : List EntryRef}
    (held : world.policies.Holds policy)
    (gathering : (machineAt policy world acts position).callers caller =
      .gathering gathered rest) :
    ∃ since done anchors, (atRest world).refs policy = done ++ rest ∧
      gathered = AnchorSet.ofList anchors ∧ since ≤ position ∧
      Contributed policy world acts caller since position done anchors ∧
      ∀ between, since ≤ between → between < position →
        ¬DroppedAt policy world acts between := by
  induction position generalizing gathered rest with
  | zero => cases gathering
  | succ position inductionHypothesis =>
      have keeps (before : (machineAt policy world acts position).callers caller =
          .gathering gathered rest) :
          ∃ since done anchors, (atRest world).refs policy = done ++ rest ∧
            gathered = AnchorSet.ofList anchors ∧ since ≤ position + 1 ∧
            Contributed policy world acts caller since (position + 1) done anchors ∧
            ∀ between, since ≤ between → between < position + 1 →
              ¬DroppedAt policy world acts between := by
        obtain ⟨since, done, anchors, split, rfl, le, contributed, kept⟩ :=
          inductionHypothesis before
        exact ⟨since, done, anchors, split, rfl, Nat.le_succ_of_le le,
          contributed.mono (Nat.le_succ position),
          forall_between_succ kept (not_droppedAt_of_isInside held (isInside_of_eq before rfl))⟩
      rcases machineAt_succ_cases policy world acts position with same | ⟨act, present, moves⟩
      · exact keeps (same ▸ gathering)
      · rcases gathering_cases moves gathering with
          before | ⟨rfl, rfl⟩ | ⟨before, entry, certificates, rfl, earlier, answer, rfl⟩
        · exact keeps before
        · refine ⟨position + 1, [], [], (refs_machineAt held position).symm, rfl,
            Nat.le_refl _, .nothing _, ?_⟩
          exact fun between le lt => absurd lt (Nat.not_lt_of_le le)
        · obtain ⟨since, done, anchors, split, rfl, le, contributed, kept⟩ :=
            inductionHypothesis earlier
          refine ⟨since, done ++ [entry], anchors ++ entry.anchorsOf certificates, ?_, ?_,
            Nat.le_succ_of_le le, ?_, forall_between_succ kept
              (not_droppedAt_of_isInside held (isInside_of_eq earlier rfl))⟩
          · rw [split, List.append_assoc, List.singleton_append]
          · rw [AnchorSet.ofList, AnchorSet.ofList, AnchorSet.extend_append]
          · exact .query contributed present answer le (Nat.lt_succ_self position)

/-- What is in the cell was contributed by all references, and nothing was dropped since. -/
theorem contributed_of_slot
    (held : world.policies.Holds policy)
    (unfilled : (atRest world).slot policy = none)
    (filled : (machineAt policy world acts position).slot policy = some snapshot) :
    ∃ caller since anchors, snapshot.anchors = AnchorSet.ofList anchors ∧
      Contributed policy world acts caller since position ((atRest world).refs policy) anchors ∧
      ∀ between, since ≤ between → between < position →
        ¬DroppedAt policy world acts between := by
  induction position generalizing snapshot with
  | zero => exact absurd (unfilled.symm.trans filled) (by simp)
  | succ position inductionHypothesis =>
      have kept : ¬DroppedAt policy world acts position := fun dropped =>
        absurd (dropped.slot_succ.symm.trans filled) (by simp)
      have keeps (before : (machineAt policy world acts position).slot policy = some snapshot) :
          ∃ caller since anchors, snapshot.anchors = AnchorSet.ofList anchors ∧
            Contributed policy world acts caller since (position + 1)
              ((atRest world).refs policy) anchors ∧
            ∀ between, since ≤ between → between < position + 1 →
              ¬DroppedAt policy world acts between := by
        obtain ⟨caller, since, anchors, same, contributed, keptBefore⟩ :=
          inductionHypothesis before
        exact ⟨caller, since, anchors, same, contributed.mono (Nat.le_succ position),
          forall_between_succ keptBefore kept⟩
      rcases machineAt_succ_cases policy world acts position with same | ⟨act, present, moves⟩
      · exact keeps (same ▸ filled)
      · rcases (consistentAt held position).slot_cases moves with
          unchanged | ⟨-, -, emptied⟩ | ⟨caller, gathered, gathering, stored⟩
        · exact keeps (unchanged.symm.trans filled)
        · exact absurd (emptied.symm.trans filled) (by simp)
        · obtain rfl := Option.some_inj.1 (stored.symm.trans filled)
          obtain ⟨since, done, anchors, split, rfl, -, contributed, keptBefore⟩ :=
            contributed_of_gathering held gathering
          rw [List.append_nil] at split
          exact ⟨caller, since, anchors, rfl,
            split ▸ contributed.mono (Nat.le_succ position),
            forall_between_succ keptBefore kept⟩

/-! ## Calls -/

/-- A caller holds the lock from when it takes it until it is given its result. -/
theorem CallAt.lock_eq
    (held : world.policies.Holds policy)
    (call : CallAt policy world acts caller acquired returned result)
    (after : acquired < position)
    (before : position ≤ returned) :
    (machineAt policy world acts position).lock = some caller := by
  induction after with
  | refl =>
      rw [machineAt, stateAt_succ_of_some call.acquires.present, step, call.acquires.waiting,
        call.acquires.free]
      rfl
  | @step position after inductionHypothesis =>
      have locked := inductionHypothesis (Nat.le_of_succ_le before)
      rcases machineAt_succ_cases policy world acts position with same | ⟨act, present, moves⟩
      · rw [same, locked]
      · rcases lock_cases moves with
          unchanged | ⟨_, -, -, free, -⟩ | ⟨releasing, other, rfl, leaving, -⟩
        · rw [unchanged, locked]
        · exact absurd (free.symm.trans locked) (by simp)
        · have holding := ((consistentAt held position).locked releasing).1
            (isInside_of_eq leaving rfl)
          obtain rfl := Option.some_inj.1 (holding.symm.trans locked)
          exact absurd ⟨present, leaving⟩ (call.first position other after before)

/-- A call that took the lock later is given its result later. -/
theorem CallAt.returned_lt_acquired
    {other otherAcquired otherReturned : Nat}
    {otherResult : Except PolicyError Snapshot}
    (held : world.policies.Holds policy)
    (call : CallAt policy world acts caller acquired returned result)
    (next : CallAt policy world acts other otherAcquired otherReturned otherResult)
    (ordered : acquired < otherAcquired) :
    returned < otherAcquired := by
  refine Nat.lt_of_not_le fun le => ?_
  have locked := call.lock_eq held ordered le
  exact absurd (next.acquires.free.symm.trans locked) (by simp)

theorem slot_of_kept
    (held : world.policies.Holds policy)
    (ordered : position ≤ later)
    (filled : (machineAt policy world acts position).slot policy = some snapshot)
    (kept : ∀ between, position ≤ between → between < later →
      ¬DroppedAt policy world acts between) :
    (machineAt policy world acts later).slot policy = some snapshot := by
  induction ordered with
  | refl => exact filled
  | @step middle ordered inductionHypothesis =>
      refine slot_succ_of_kept held (inductionHypothesis fun between le lt => ?_) ?_
      · exact kept between le (Nat.lt_succ_of_lt lt)
      · exact kept middle ordered (Nat.lt_succ_self middle)

/-- Successful calls with nothing dropped between them are given one snapshot. -/
theorem CallAt.eq_of_kept
    {other otherAcquired otherReturned : Nat}
    {otherSnapshot : Snapshot}
    (held : world.policies.Holds policy)
    (call : CallAt policy world acts caller acquired returned (.ok snapshot))
    (next : CallAt policy world acts other otherAcquired otherReturned (.ok otherSnapshot))
    (ordered : acquired < otherAcquired)
    (kept : ∀ between, acquired < between → between < otherAcquired →
      ¬DroppedAt policy world acts between) :
    otherSnapshot = snapshot := by
  have later : returned < otherAcquired := call.returned_lt_acquired held next ordered
  have filled : (machineAt policy world acts returned).slot policy = some snapshot :=
    (consistentAt held returned).slot_of_ok call.returns.leaving
  have stays : (machineAt policy world acts otherReturned).slot policy = some snapshot := by
    refine slot_of_kept held ?_ filled fun between le lt dropped => ?_
    · exact Nat.le_of_lt (Nat.lt_trans later next.ordered)
    · -- Before the next call has the lock nothing is dropped by assumption, and while it
      -- has the lock nothing can be dropped.
      rcases Nat.lt_trichotomy between otherAcquired with before | rfl | after
      · exact kept between (Nat.lt_of_lt_of_le call.ordered le) before dropped
      · exact absurd (dropped.present.symm.trans next.acquires.present) (by simp)
      · have locked := next.lock_eq held after (Nat.le_of_lt lt)
        exact absurd (dropped.free.symm.trans locked) (by simp)
  have found := (consistentAt held otherReturned).slot_of_ok next.returns.leaving
  exact Option.some_inj.1 (found.symm.trans stays)

/-- A caller is given one result for each time that it takes the lock. -/
theorem CallAt.result_eq
    {other otherReturned : Nat}
    {otherResult : Except PolicyError Snapshot}
    (call : CallAt policy world acts caller acquired returned result)
    (same : CallAt policy world acts other acquired otherReturned otherResult) :
    otherResult = result := by
  obtain rfl : caller = other := by
    simpa using call.acquires.present.symm.trans same.acquires.present
  rcases Nat.lt_trichotomy returned otherReturned with before | rfl | after
  · exact absurd call.returns (same.first returned result call.ordered before)
  · simpa using same.returns.leaving.symm.trans call.returns.leaving
  · exact absurd same.returns (call.first otherReturned otherResult same.ordered after)

/-- After a failure the lock is free and the cell is empty until a caller takes the
lock. -/
theorem ReturnedAt.unfilled_until_acquired
    {raised : PolicyError}
    (held : world.policies.Holds policy)
    (returned : ReturnedAt policy world acts position caller (.error raised))
    (after : position < later)
    (untouched : ∀ between other, position < between → between < later →
      ¬AcquiredAt policy world acts between other) :
    (machineAt policy world acts later).lock = none ∧
      (machineAt policy world acts later).slot policy = none := by
  induction after with
  | refl =>
      have unfilled := (consistentAt held position).slot_of_error returned.leaving
      rw [machineAt, stateAt_succ_of_some returned.present, step, returned.leaving]
      exact ⟨rfl, unfilled⟩
  | @step middle after inductionHypothesis =>
      obtain ⟨free, unfilled⟩ := inductionHypothesis fun between other positionLt lt =>
        untouched between other positionLt (Nat.lt_succ_of_lt lt)
      have outside (other : Nat) :
          ((machineAt policy world acts middle).callers other).isInside ≠ true := by
        rw [Ne, (consistentAt held middle).locked, free]
        simp
      rcases machineAt_succ_cases policy world acts middle with same | ⟨act, present, moves⟩
      · rw [same]
        exact ⟨free, unfilled⟩
      constructor
      · rcases lock_cases moves with
          unchanged | ⟨acquiring, rfl, waiting, -, -⟩ | ⟨releasing, _, -, leaving, -⟩
        · rw [unchanged, free]
        · exact absurd ⟨present, waiting, free⟩
            (untouched middle acquiring after (Nat.lt_succ_self middle))
        · exact absurd (isInside_of_eq leaving rfl) (outside releasing)
      · rcases (consistentAt held middle).slot_cases moves with
          unchanged | ⟨-, -, emptied⟩ | ⟨storing, gathered, gathering, -⟩
        · rw [unchanged, unfilled]
        · exact emptied
        · exact absurd (isInside_of_eq gathering rfl) (outside storing)

/-! ## Any interleaving -/

/-- What holds of any number of callers that read the anchors of a policy in any
interleaving, from a world in which they are not cached. -/
structure ReadsInFlight
    (policy : PolicyId)
    (world : World)
    (acts : List Act) : Prop where
  /-- At most one caller is inside at a time. -/
  exclusive : ∀ position caller other,
    ((machineAt policy world acts position).callers caller).isInside = true →
    ((machineAt policy world acts position).callers other).isInside = true →
    caller = other
  /-- What a caller is given was contributed by all references, in order, after all
  invalidations that were completed before. -/
  complete : ∀ caller acquired returned snapshot,
    CallAt policy world acts caller acquired returned (.ok snapshot) →
    ∃ reader since anchors,
      Contributed policy world acts reader since returned ((atRest world).refs policy) anchors ∧
      snapshot.anchors.anchors = Anchor.firstOccurrences anchors ∧
      ∀ dropped, dropped < returned → DroppedAt policy world acts dropped → dropped < since
  /-- All that are given something between two invalidations are given the same. -/
  agreeing : ∀ caller acquired returned snapshot other otherAcquired otherReturned otherSnapshot,
    CallAt policy world acts caller acquired returned (.ok snapshot) →
    CallAt policy world acts other otherAcquired otherReturned (.ok otherSnapshot) →
    acquired ≤ otherAcquired →
    (∀ between, acquired < between → between < otherAcquired →
      ¬DroppedAt policy world acts between) →
    otherSnapshot = snapshot
  /-- After a failure the next caller finds the cell empty. -/
  retried : ∀ caller acquired returned raised next other,
    CallAt policy world acts caller acquired returned (.error raised) →
    returned < next → AcquiredAt policy world acts next other →
    (∀ between another, returned < between → between < next →
      ¬AcquiredAt policy world acts between another) →
    (machineAt policy world acts (returned + 1)).slot policy = none ∧
      (machineAt policy world acts next).slot policy = none

/-- Reads of a policy that was built are orderly in any interleaving. -/
theorem readsInFlight
    (held : world.policies.Holds policy)
    (unfilled : (world.policies.get policy).anchors.slot = none)
    (acts : List Act) :
    ReadsInFlight policy world acts where
  exclusive position _ _ first second := (consistentAt held position).eq_of_isInside first second
  complete caller acquired returned snapshot call := by
    have filled := (consistentAt held returned).slot_of_ok call.returns.leaving
    obtain ⟨reader, since, anchors, same, contributed, kept⟩ :=
      contributed_of_slot held unfilled filled
    refine ⟨reader, since, anchors, contributed, ?_, fun dropped before isDropped => ?_⟩
    · rw [same, AnchorSet.anchors_ofList]
    · exact Nat.lt_of_not_le fun sinceLe => kept dropped sinceLe before isDropped
  agreeing caller acquired returned snapshot other otherAcquired otherReturned otherSnapshot
      call next ordered kept := by
    rcases Nat.lt_or_eq_of_le ordered with earlier | rfl
    · exact call.eq_of_kept held next earlier kept
    · exact Except.ok.inj (call.result_eq next)
  retried caller acquired returned raised next other call later acquires untouched := by
    have soon := call.returns.unfilled_until_acquired held (Nat.lt_succ_self returned)
      fun between another lt ltSucc => absurd lt (Nat.not_lt_of_le (Nat.le_of_lt_succ ltSucc))
    exact ⟨soon.2, (call.returns.unfilled_until_acquired held later untouched).2⟩

end Runs

/-- Two callers read a policy with two references to one source, which gets its certificate
between the two queries of the first caller. The second caller is given the same, although
the source has lost the certificate again by then. After an invalidation a caller fails,
because the source fails by then. -/
theorem readsInFlight_of_two_callers :
    let policy : PolicyId := ⟨0⟩
    let source : SourceId := ⟨0⟩
    let world := World.initial.performAll
      [.addSource ⟨"store", .counting { certificates := [] }⟩,
        .buildChain "policy" [Builder.blank.addRefs [⟨source, false⟩, ⟨source, true⟩]] none]
    let supply (certificates : List Certificate) : Act :=
      .elsewhere (.changeSource source (.replace certificates))
    let acts : List Act :=
      [.call 0, .call 1, .acquire 0, .look 0, .query 0, .acquire 1, .invalidate,
        supply [World.namelessCertificate], .query 0, .store 0, .release 0, supply [], .acquire 1,
        .look 1, .release 1, .invalidate, .elsewhere (.changeSource source (.failing true)),
        .call 0, .acquire 0, .look 0, .query 0, .release 0, .call 1, .acquire 1]
    ∃ snapshot otherSnapshot raised,
      CallAt policy world acts 0 2 10 (.ok snapshot) ∧
      snapshot.anchors.anchors = [⟨World.namelessCertificate, true⟩] ∧
      (∃ reader since anchors,
        Contributed policy world acts reader since 10 ((atRest world).refs policy) anchors ∧
        snapshot.anchors.anchors = Anchor.firstOccurrences anchors) ∧
      CallAt policy world acts 1 12 14 (.ok otherSnapshot) ∧ otherSnapshot = snapshot ∧
      DroppedAt policy world acts 15 ∧
      CallAt policy world acts 0 18 21 (.error raised) ∧
      AcquiredAt policy world acts 23 1 ∧
      (machineAt policy world acts 23).slot policy = none := by
  intro policy source world supply acts
  have held : world.policies.Holds policy := by decide
  have unfilled : (world.policies.get policy).anchors.slot = none := rfl
  have reads := readsInFlight held unfilled acts
  let given : Snapshot := ⟨0, AnchorSet.ofList [⟨World.namelessCertificate, true⟩]⟩
  have first : CallAt policy world acts 0 2 10 (.ok given) := by
    refine ⟨⟨rfl, by decide +kernel, by decide +kernel⟩, by decide,
      ⟨rfl, by decide +kernel⟩, ?_⟩
    rintro between other after before ⟨present, -⟩
    interval_cases between <;> simp [acts, supply] at present
  have second : CallAt policy world acts 1 12 14 (.ok given) := by
    refine ⟨⟨rfl, by decide +kernel, by decide +kernel⟩, by decide,
      ⟨rfl, by decide +kernel⟩, ?_⟩
    rintro between other after before ⟨present, -⟩
    interval_cases between
    simp [acts] at present
  have third : CallAt policy world acts 0 18 21
      (.error (.certificateSource "store" "store unavailable")) := by
    refine ⟨⟨rfl, by decide +kernel, by decide +kernel⟩, by decide,
      ⟨rfl, by decide +kernel⟩, ?_⟩
    rintro between other after before ⟨present, -⟩
    interval_cases between <;> simp [acts] at present
  have next : AcquiredAt policy world acts 23 1 :=
    ⟨rfl, by decide +kernel, by decide +kernel⟩
  obtain ⟨reader, since, anchors, contributed, same, -⟩ := reads.complete 0 2 10 given first
  refine ⟨given, given, _, first, rfl, ⟨reader, since, anchors, contributed, same⟩, second, ?_,
    ⟨rfl, by decide +kernel⟩, third, next, ?_⟩
  · refine reads.agreeing 0 2 10 _ 1 12 14 _ first second (by decide) ?_
    intro between after before dropped
    rcases Nat.lt_or_eq_of_le (Nat.le_of_lt_succ before) with inside | rfl
    · have locked := first.lock_eq held after (Nat.le_of_lt_succ inside)
      exact absurd (dropped.free.symm.trans locked) (by simp)
    · exact absurd dropped.present (by simp [acts, supply])
  · refine (reads.retried 0 18 21 _ 23 1 third (by decide) next ?_).2
    rintro between another after before ⟨present, -, -⟩
    obtain rfl : between = 22 := by omega
    simp [acts] at present

end Machine
end TrustPolicy
