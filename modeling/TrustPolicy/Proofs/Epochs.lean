import Mathlib.Algebra.BigOperators.Intervals
import TrustPolicy.Proofs.Calls
import TrustPolicy.Proofs.Runs

/-!
# Epochs of cached anchors

The invalidations of a policy divide a run into epochs. Within an epoch all
successful reads of the policy's anchors are given one snapshot; in different
epochs they are given different ones. A snapshot holds what the sources supplied
when it was computed, which was in the epoch in which it is given out.
-/

namespace TrustPolicy
namespace World

/-- The world in which the call at a position of a run is carried out. -/
abbrev worldAt
    (calls : List Call)
    (position : Nat) : World :=
  stateAt perform initial calls position

/-- Whether the call at a position reads the anchors of a policy, with a result. -/
structure ReadAt
    (calls : List Call)
    (policy : PolicyId)
    (position : Nat)
    (result : Except PolicyError Snapshot) : Prop where
  /-- The policy has been built. -/
  held : (worldAt calls position).policies.Holds policy
  reads : ∃ call, calls[position]? = some call ∧ call.Reads (worldAt calls position) policy
  answer : ((worldAt calls position).trustAnchors policy).1 = result

/-- Whether the call at a position drops the anchors of a policy. -/
def InvalidatedAt
    (calls : List Call)
    (policy : PolicyId)
    (position : Nat) : Prop :=
  ∃ call, calls[position]? = some call ∧ call.Invalidates (worldAt calls position) policy

/-- The snapshot of a policy's anchors that is cached at a position. -/
def cachedAt
    (calls : List Call)
    (policy : PolicyId)
    (position : Nat) : Option Snapshot :=
  ((worldAt calls position).policies.get policy).anchors.slot

/-- The references of a policy at a position. -/
def refsAt
    (calls : List Call)
    (policy : PolicyId)
    (position : Nat) : List EntryRef :=
  ((worldAt calls position).policies.get policy).settings.entryRefs

/-- The sources that the call at a position queries, in order. -/
def queriesAt
    (calls : List Call)
    (position : Nat) : List SourceId :=
  match calls[position]? with
  | none => []
  | some call => call.queries (worldAt calls position)

/-- The sources that the call at a position queries if it reads the anchors of a
policy, in order. -/
def readQueriesAt
    (calls : List Call)
    (policy : PolicyId)
    (position : Nat) : List SourceId :=
  match calls[position]? with
  | none => []
  | some call =>
      if call.Reads (worldAt calls position) policy then call.queries (worldAt calls position)
      else []

section Epochs

variable
  {calls : List Call}
  {policy : PolicyId}
  {position first last : Nat}
  {snapshot : Snapshot}
  {raised : PolicyError}
  {result : Except PolicyError Snapshot}

/-! ## Single positions -/

/-- A call leads to the world at the next position. -/
theorem worldAt_succ
    {call : Call}
    (present : calls[position]? = some call) :
    worldAt calls (position + 1) = (worldAt calls position).perform call :=
  stateAt_succ_of_some present

theorem knowsItself_worldAt : (worldAt calls position).KnowsItself :=
  stateAt_of_le (motive := KnowsItself) (Nat.zero_le position) knowsItself_initial
    fun _ _ _ _ _ => KnowsItself.perform

namespace ReadAt

theorem worldAt_succ
    (read : ReadAt calls policy position result) :
    worldAt calls (position + 1) = ((worldAt calls position).trustAnchors policy).2 := by
  obtain ⟨call, present, reads⟩ := read.reads
  rw [World.worldAt_succ present, perform_of_reads reads]

theorem queriesAt_eq
    (read : ReadAt calls policy position result) :
    queriesAt calls position = (worldAt calls position).readQueries policy := by
  obtain ⟨call, present, reads⟩ := read.reads
  rw [queriesAt, present]
  exact queries_of_reads reads

theorem readQueriesAt_eq
    (read : ReadAt calls policy position result) :
    readQueriesAt calls policy position = queriesAt calls position := by
  obtain ⟨call, present, reads⟩ := read.reads
  rw [readQueriesAt, queriesAt, present]
  exact if_pos reads

/-- A read of a filled cell is given the snapshot in it, queries no source, and
changes nothing. -/
theorem of_filled
    (read : ReadAt calls policy position result)
    (cached : cachedAt calls policy position = some snapshot) :
    result = .ok snapshot ∧ queriesAt calls position = [] ∧
      worldAt calls (position + 1) = worldAt calls position := by
  have answer := trustAnchors_of_slot_eq_some cached
  refine ⟨?_, read.queriesAt_eq.trans (readQueries_of_slot_eq_some cached), ?_⟩
  · rw [← read.answer, answer]
  · rw [read.worldAt_succ, answer]

/-- A read of an empty cell makes its queries one after another. -/
theorem tracedGather_eq
    (read : ReadAt calls policy position result)
    (unfilled : cachedAt calls policy position = none) :
    (worldAt calls position).tracedGather [] AnchorSet.empty (refsAt calls policy position) =
      (((worldAt calls position).gather AnchorSet.empty (refsAt calls policy position)).1,
        ((worldAt calls position).gather AnchorSet.empty (refsAt calls policy position)).2,
        queriesAt calls position) := by
  rw [World.tracedGather_eq, read.queriesAt_eq, readQueries_of_slot_eq_none unfilled]
  rfl

/-- A successful read of an empty cell queries the source of each reference once and
fills the cell with what the sources supply. -/
theorem of_unfilled
    (read : ReadAt calls policy position (.ok snapshot))
    (unfilled : cachedAt calls policy position = none) :
    cachedAt calls policy (position + 1) = some snapshot ∧
      queriesAt calls position = (refsAt calls policy position).map EntryRef.source ∧
      (worldAt calls position).currentAnchors policy = .ok snapshot.anchors.anchors ∧
      snapshot.stamp = (worldAt calls position).stamps ∧
      (worldAt calls (position + 1)).stamps = (worldAt calls position).stamps + 1 := by
  obtain ⟨current, stamp, stamps, -, slot⟩ :=
    trustAnchors_computes read.held unfilled read.answer
  refine ⟨?_, ?_, current, stamp, by rw [read.worldAt_succ, stamps]⟩
  · rw [cachedAt, read.worldAt_succ, slot]
  · rw [read.queriesAt_eq, readQueries_of_slot_eq_none unfilled]
    cases contributes : (worldAt calls position).contributions
        ((worldAt calls position).policies.get policy).settings.entryRefs with
    | ok anchors => rw [asked_of_contributions_ok contributes, refsAt]
    | error raised => simp [currentAnchors, contributes, Except.map] at current

theorem cachedAt_succ
    (read : ReadAt calls policy position (.ok snapshot)) :
    cachedAt calls policy (position + 1) = some snapshot := by
  cases cached : cachedAt calls policy position with
  | none => exact (read.of_unfilled cached).1
  | some found =>
      obtain ⟨same, -, unchanged⟩ := read.of_filled cached
      rw [cachedAt, unchanged, ← cachedAt, cached, Except.ok.inj same]

/-- A read that fails has found the cell empty and leaves it so. It queries the
sources of the references up to the first one that fails. -/
theorem of_error
    (read : ReadAt calls policy position (.error raised)) :
    cachedAt calls policy position = none ∧
      cachedAt calls policy (position + 1) = none ∧
      ∃ before entry after error,
        refsAt calls policy position = before ++ entry :: after ∧
        (∀ earlier ∈ before, ∃ certificates,
          ((worldAt calls position).sources.get earlier.source).certificates =
            .ok certificates) ∧
        ((worldAt calls position).sources.get entry.source).certificates = .error error ∧
        raised = EntryRef.wrapError ((worldAt calls position).label entry.source) error ∧
        queriesAt calls position = (before ++ [entry]).map EntryRef.source := by
  obtain ⟨unfilled, samePolicies, fails, -⟩ := trustAnchors_fails read.answer
  refine ⟨unfilled, by rw [cachedAt, read.worldAt_succ, samePolicies, unfilled], ?_⟩
  cases contributes : (worldAt calls position).contributions
      ((worldAt calls position).policies.get policy).settings.entryRefs with
  | ok anchors => simp [currentAnchors, contributes, Except.map] at fails
  | error found =>
      obtain rfl : found = raised := by
        simpa [currentAnchors, contributes, Except.map] using fails
      obtain ⟨before, entry, after, error, split, answers, failure, wrapped, asked⟩ :=
        exists_failing_of_contributions_error contributes
      refine ⟨before, entry, after, error, split, answers, failure, wrapped, ?_⟩
      rw [read.queriesAt_eq, readQueries_of_slot_eq_none unfilled, asked]

end ReadAt

theorem readQueriesAt_of_not_readAt
    (held : (worldAt calls position).policies.Holds policy)
    (notRead : ∀ result, ¬ReadAt calls policy position result) :
    readQueriesAt calls policy position = [] := by
  rw [readQueriesAt]
  cases present : calls[position]? with
  | none => rfl
  | some call => exact if_neg fun reads => notRead _ ⟨held, ⟨call, present, reads⟩, rfl⟩

/-- An invalidation leaves the cell empty. -/
theorem InvalidatedAt.cachedAt_succ
    (invalidated : InvalidatedAt calls policy position) :
    cachedAt calls policy (position + 1) = none := by
  obtain ⟨call, present, invalidates⟩ := invalidated
  rw [cachedAt, worldAt_succ present, get_perform_of_invalidates invalidates]
  rfl

/-- Only a read and an invalidation of a policy change the policy's cell. -/
theorem cachedAt_succ_of_neither
    (notRead : ∀ result, ¬ReadAt calls policy position result)
    (kept : ¬InvalidatedAt calls policy position) :
    cachedAt calls policy (position + 1) = cachedAt calls policy position := by
  cases present : calls[position]? with
  | none => rw [cachedAt, worldAt, stateAt_succ_of_none present, ← worldAt, ← cachedAt]
  | some call =>
      by_cases held : (worldAt calls position).policies.Holds policy
      · have notReads : ¬call.Reads (worldAt calls position) policy := fun reads =>
          notRead _ ⟨held, ⟨call, present, reads⟩, rfl⟩
        have notInvalidates : ¬call.Invalidates (worldAt calls position) policy :=
          fun invalidates => kept ⟨call, present, invalidates⟩
        obtain ⟨cell, same⟩ := get_perform_of_neither held notReads notInvalidates
        rw [cachedAt, worldAt_succ present, same, cachedAt]
      · obtain ⟨_, _, _, built, -⟩ := get_perform_of_not_holds call held
        rw [cachedAt, cachedAt, worldAt_succ present, built, Arena.get_of_not_holds held]
        rfl

/-- What is cached stays until it is invalidated. -/
theorem cachedAt_succ_of_kept
    (cached : cachedAt calls policy position = some snapshot)
    (kept : ¬InvalidatedAt calls policy position) :
    cachedAt calls policy (position + 1) = some snapshot := by
  by_cases read : ∃ result, ReadAt calls policy position result
  · obtain ⟨result, read⟩ := read
    rw [cachedAt, (read.of_filled cached).2.2, ← cachedAt, cached]
  · rw [cachedAt_succ_of_neither (not_exists.1 read) kept, cached]

/-- A call queries sources only if it asks one of them directly or reads the anchors
of a policy whose cell is empty. -/
theorem exists_reads_of_queriesAt_ne_nil
    (queries : queriesAt calls position ≠ []) :
    (∃ source, calls[position]? = some (.querySource source)) ∨
      ∃ call policy, calls[position]? = some call ∧
        call.Reads (worldAt calls position) policy ∧ cachedAt calls policy position = none := by
  have unfilled {policy : PolicyId}
      (asks : (worldAt calls position).readQueries policy ≠ []) :
      cachedAt calls policy position = none :=
    Option.eq_none_iff_forall_ne_some.2 fun snapshot cached =>
      asks (readQueries_of_slot_eq_some cached)
  cases present : calls[position]? with
  | none => simp [queriesAt, present] at queries
  | some call =>
      simp only [queriesAt, present] at queries
      cases call with
      | trustAnchors policy =>
          exact .inr ⟨_, policy, rfl, rfl, unfilled queries⟩
      | acceptedIssuers manager =>
          by_cases alive : (worldAt calls position).isAlive manager.policy = true
          · rw [Call.queries, if_pos alive] at queries
            exact .inr ⟨_, manager.policy, rfl, ⟨rfl, alive⟩, unfilled queries⟩
          · exact absurd (if_neg alive) queries
      | querySource source => exact .inl ⟨source, rfl⟩
      | _ => exact absurd rfl queries

/-! ## Runs -/

/-- A policy that was built stays, with its references. -/
theorem holds_and_refsAt_of_le
    (ordered : first ≤ last)
    (held : (worldAt calls first).policies.Holds policy) :
    (worldAt calls last).policies.Holds policy ∧
      refsAt calls policy last = refsAt calls policy first := by
  refine stateAt_of_le
    (motive := fun world : World => world.policies.Holds policy ∧
      (world.policies.get policy).settings.entryRefs = refsAt calls policy first)
    ordered ⟨held, rfl⟩ ?_
  rintro position call - - - ⟨held, same⟩
  refine ⟨holds_perform held, ?_⟩
  rw [(settings_and_factory_perform held).1, same]

theorem stamps_le_of_le
    (ordered : first ≤ last) :
    (worldAt calls first).stamps ≤ (worldAt calls last).stamps :=
  stateAt_of_le (motive := fun world : World => (worldAt calls first).stamps ≤ world.stamps)
    ordered (Nat.le_refl _) fun _ _ _ _ _ le => Nat.le_trans le stamps_le_perform

/-- What is cached stays as long as it is not invalidated. -/
theorem cachedAt_of_le
    (ordered : first ≤ last)
    (cached : cachedAt calls policy first = some snapshot)
    (kept : ∀ between, first ≤ between → between < last →
      ¬InvalidatedAt calls policy between) :
    cachedAt calls policy last = some snapshot := by
  induction ordered with
  | refl => exact cached
  | @step position ordered inductionHypothesis =>
      refine cachedAt_succ_of_kept (inductionHypothesis fun between firstLe ltPosition => ?_) ?_
      · exact kept between firstLe (Nat.lt_succ_of_lt ltPosition)
      · exact kept position ordered (Nat.lt_succ_self position)

/-- What is cached was computed by a read that found the cell empty, and was not
invalidated since. -/
theorem exists_read_of_cachedAt
    (cached : cachedAt calls policy last = some snapshot) :
    ∃ moment, moment < last ∧ ReadAt calls policy moment (.ok snapshot) ∧
      cachedAt calls policy moment = none ∧
      ∀ between, moment ≤ between → between < last → ¬InvalidatedAt calls policy between := by
  induction last with
  | zero =>
      have unfilled : cachedAt calls policy 0 = none := by
        rw [cachedAt, worldAt, stateAt_zero, Arena.get_of_not_holds (Nat.not_lt_zero _)]
        rfl
      exact absurd (unfilled.symm.trans cached) (by simp)
  | succ position inductionHypothesis =>
      have kept : ¬InvalidatedAt calls policy position := fun invalidated =>
        absurd (invalidated.cachedAt_succ.symm.trans cached) (by simp)
      have extend (before : cachedAt calls policy position = some snapshot) :
          ∃ moment, moment < position + 1 ∧ ReadAt calls policy moment (.ok snapshot) ∧
            cachedAt calls policy moment = none ∧
            ∀ between, moment ≤ between → between < position + 1 →
              ¬InvalidatedAt calls policy between := by
        obtain ⟨moment, earlier, read, unfilled, keptBefore⟩ := inductionHypothesis before
        exact ⟨moment, Nat.lt_succ_of_lt earlier, read, unfilled,
          forall_between_succ keptBefore kept⟩
      by_cases reads : ∃ result, ReadAt calls policy position result
      · obtain ⟨answer, read⟩ := reads
        cases filled : cachedAt calls policy position with
        | some found =>
            obtain ⟨-, -, unchanged⟩ := read.of_filled filled
            rw [cachedAt, unchanged, ← cachedAt] at cached
            exact extend cached
        | none =>
            cases answer with
            | error raised => exact absurd (read.of_error.2.1.symm.trans cached) (by simp)
            | ok computed =>
                obtain rfl : computed = snapshot :=
                  Option.some_inj.1 (read.cachedAt_succ.symm.trans cached)
                refine ⟨position, Nat.lt_succ_self position, read, filled, ?_⟩
                intro between positionLe ltSucc
                obtain rfl := Nat.le_antisymm (Nat.le_of_lt_succ ltSucc) positionLe
                exact kept
      · rw [cachedAt_succ_of_neither (not_exists.1 reads) kept] at cached
        exact extend cached

/-- What a read is given was computed by that read or an earlier one, and was not
invalidated since. -/
theorem exists_read_of_readAt
    (read : ReadAt calls policy last (.ok snapshot)) :
    ∃ moment, moment ≤ last ∧ ReadAt calls policy moment (.ok snapshot) ∧
      cachedAt calls policy moment = none ∧
      ∀ between, moment ≤ between → between < last → ¬InvalidatedAt calls policy between := by
  obtain ⟨moment, earlier, computed, unfilled, kept⟩ := exists_read_of_cachedAt read.cachedAt_succ
  refine ⟨moment, Nat.le_of_lt_succ earlier, computed, unfilled, ?_⟩
  exact fun between momentLe ltLast => kept between momentLe (Nat.lt_succ_of_lt ltLast)

/-- The count of a source grows by the queries of the calls, and by nothing else. -/
theorem queryCount?_worldAt
    {source : SourceId}
    (ordered : first ≤ last)
    (held : (worldAt calls first).sources.Holds source) :
    (worldAt calls last).sources.Holds source ∧
      ((worldAt calls last).sources.get source).queryCount? =
        ((worldAt calls first).sources.get source).queryCount?.map
          (· + ∑ position ∈ Finset.Ico first last, (queriesAt calls position).count source) := by
  induction ordered with
  | refl => exact ⟨held, by simp⟩
  | @step position ordered inductionHypothesis =>
      obtain ⟨heldBefore, counted⟩ := inductionHypothesis
      rw [Finset.sum_Ico_succ_top ordered]
      cases present : calls[position]? with
      | none =>
          rw [worldAt, stateAt_succ_of_none present, ← worldAt]
          exact ⟨heldBefore, by simpa [queriesAt, present] using counted⟩
      | some call =>
          rw [worldAt_succ present]
          refine ⟨holds_source_perform heldBefore, ?_⟩
          rw [queryCount?_perform heldBefore, counted, Option.map_map, queriesAt, present]
          congr 1
          funext count
          exact Nat.add_assoc _ _ _

/-- If all reads of a policy in a part of a run succeed and none of its anchors are
dropped there, the first read queries the source of each reference once, and the
others query none. -/
theorem count_readQueriesAt_of_successful
    (source : SourceId)
    (ordered : first ≤ last)
    (held : (worldAt calls first).policies.Holds policy)
    (unfilled : cachedAt calls policy first = none)
    (kept : ∀ position, first ≤ position → position < last →
      ¬InvalidatedAt calls policy position)
    (succeed : ∀ position raised, first ≤ position → position < last →
      ¬ReadAt calls policy position (.error raised)) :
    (cachedAt calls policy last = none ∧
      (∀ position result, first ≤ position → position < last →
        ¬ReadAt calls policy position result) ∧
      ∑ position ∈ Finset.Ico first last, (readQueriesAt calls policy position).count source = 0) ∨
    (∃ snapshot, cachedAt calls policy last = some snapshot) ∧
      ∑ position ∈ Finset.Ico first last, (readQueriesAt calls policy position).count source =
        ((refsAt calls policy first).map EntryRef.source).count source := by
  induction ordered with
  | refl =>
      refine .inl ⟨unfilled, ?_, by simp⟩
      exact fun position result firstLe ltFirst => absurd ltFirst (Nat.not_lt_of_le firstLe)
  | @step position ordered inductionHypothesis =>
      have keptHere := kept position ordered (Nat.lt_succ_self position)
      have before := inductionHypothesis
        (fun earlier firstLe earlierLt => kept earlier firstLe (Nat.lt_succ_of_lt earlierLt))
        (fun earlier raised firstLe earlierLt =>
          succeed earlier raised firstLe (Nat.lt_succ_of_lt earlierLt))
      obtain ⟨heldHere, sameRefs⟩ := holds_and_refsAt_of_le ordered held
      rw [Finset.sum_Ico_succ_top ordered]
      by_cases reads : ∃ result, ReadAt calls policy position result
      · obtain ⟨result, read⟩ := reads
        rw [read.readQueriesAt_eq]
        refine .inr ?_
        rcases before with ⟨unfilledHere, -, zero⟩ | ⟨⟨snapshot, cached⟩, once⟩
        · cases result with
          | error raised =>
              exact (succeed position raised ordered (Nat.lt_succ_self position) read).elim
          | ok snapshot =>
              obtain ⟨cached, queries, -⟩ := read.of_unfilled unfilledHere
              exact ⟨⟨snapshot, cached⟩, by rw [zero, queries, sameRefs, Nat.zero_add]⟩
        · obtain ⟨-, noQueries, -⟩ := read.of_filled cached
          exact ⟨⟨snapshot, cachedAt_succ_of_kept cached keptHere⟩,
            by rw [once, noQueries, List.count_nil, Nat.add_zero]⟩
      · have notRead := not_exists.1 reads
        rw [readQueriesAt_of_not_readAt heldHere notRead, List.count_nil, Nat.add_zero,
          cachedAt_succ_of_neither notRead keptHere]
        refine before.imp_left fun ⟨unfilledHere, noReads, zero⟩ => ⟨unfilledHere, ?_, zero⟩
        intro earlier result
        exact forall_between_succ (fun between => noReads between result) (notRead result) earlier

/-! ## Epochs -/

/-- What a run does to the anchors of a policy. -/
structure HasEpochs
    (calls : List Call)
    (policy : PolicyId) : Prop where
  /-- After a successful read, and until the next invalidation, all reads are given the
  same snapshot, whatever the sources supply. -/
  constant : ∀ first last snapshot result, first < last →
    ReadAt calls policy first (.ok snapshot) →
    ReadAt calls policy last result →
    (∀ between, first < between → between < last → ¬InvalidatedAt calls policy between) →
    result = .ok snapshot
  /-- Reads with an invalidation between them are given different snapshots. -/
  distinct : ∀ first between last earlier later, first < between → between < last →
    ReadAt calls policy first (.ok earlier) →
    InvalidatedAt calls policy between →
    ReadAt calls policy last (.ok later) →
    earlier.stamp ≠ later.stamp
  /-- A snapshot holds what the sources supplied when it was computed, which was after
  all invalidations before the read that is given it. -/
  current : ∀ position snapshot, ReadAt calls policy position (.ok snapshot) →
    ∃ moment, moment ≤ position ∧
      ReadAt calls policy moment (.ok snapshot) ∧
      cachedAt calls policy moment = none ∧
      (worldAt calls moment).currentAnchors policy = .ok snapshot.anchors.anchors ∧
      ∀ dropped, dropped < position → InvalidatedAt calls policy dropped → dropped < moment
  /-- Only direct queries and reads of empty cells query sources. -/
  asks : ∀ position, queriesAt calls position ≠ [] →
    (∃ source, calls[position]? = some (.querySource source)) ∨
      ∃ call read, calls[position]? = some call ∧
        call.Reads (worldAt calls position) read ∧ cachedAt calls read position = none
  /-- A read of a filled cell changes nothing. -/
  filled : ∀ position snapshot result, ReadAt calls policy position result →
    cachedAt calls policy position = some snapshot →
    result = .ok snapshot ∧ queriesAt calls position = [] ∧
      worldAt calls (position + 1) = worldAt calls position
  /-- The queries of a read of an empty cell are those that are noted when they are made, in
  this order, by the gathering of the anchors. -/
  traced : ∀ position result, ReadAt calls policy position result →
    cachedAt calls policy position = none →
    (worldAt calls position).tracedGather [] AnchorSet.empty (refsAt calls policy position) =
      (((worldAt calls position).gather AnchorSet.empty (refsAt calls policy position)).1,
        ((worldAt calls position).gather AnchorSet.empty (refsAt calls policy position)).2,
        queriesAt calls position)
  /-- A successful read of an empty cell queries the source of each reference once, in
  order, and fills the cell. -/
  succeeds : ∀ position snapshot, ReadAt calls policy position (.ok snapshot) →
    cachedAt calls policy position = none →
    queriesAt calls position = (refsAt calls policy position).map EntryRef.source ∧
      cachedAt calls policy (position + 1) = some snapshot
  /-- A read that fails queries the sources of the references up to the first one that
  fails, and leaves the cell empty. -/
  fails : ∀ position raised, ReadAt calls policy position (.error raised) →
    cachedAt calls policy position = none ∧
      cachedAt calls policy (position + 1) = none ∧
      ∃ before entry after error,
        refsAt calls policy position = before ++ entry :: after ∧
        (∀ earlier ∈ before, ∃ certificates,
          ((worldAt calls position).sources.get earlier.source).certificates =
            .ok certificates) ∧
        ((worldAt calls position).sources.get entry.source).certificates = .error error ∧
        raised = EntryRef.wrapError ((worldAt calls position).label entry.source) error ∧
        queriesAt calls position = (before ++ [entry]).map EntryRef.source
  /-- The successful reads of an epoch query the source of each reference once, however
  many they are. -/
  once : ∀ first last position snapshot source, first ≤ position → position < last →
    (worldAt calls first).policies.Holds policy →
    cachedAt calls policy first = none →
    (∀ between, first ≤ between → between < last → ¬InvalidatedAt calls policy between) →
    (∀ between raised, first ≤ between → between < last →
      ¬ReadAt calls policy between (.error raised)) →
    ReadAt calls policy position (.ok snapshot) →
    ∑ moment ∈ Finset.Ico first last, (readQueriesAt calls policy moment).count source =
      ((refsAt calls policy first).map EntryRef.source).count source
  /-- A source that counts its queries counts these, and nothing else. -/
  counted : ∀ first last source, first ≤ last →
    (worldAt calls first).sources.Holds source →
    ((worldAt calls last).sources.get source).queryCount? =
      ((worldAt calls first).sources.get source).queryCount?.map
        (· + ∑ moment ∈ Finset.Ico first last, (queriesAt calls moment).count source)

/-- In every run, the anchors of every policy have epochs. -/
theorem hasEpochs
    (calls : List Call)
    (policy : PolicyId) :
    HasEpochs calls policy where
  constant first last snapshot result ordered earlier later kept := by
    have cached : cachedAt calls policy last = some snapshot :=
      cachedAt_of_le ordered earlier.cachedAt_succ kept
    exact (later.of_filled cached).1
  distinct first between last earlier later firstLt betweenLt firstRead dropped lastRead := by
    obtain ⟨firstMoment, firstLe, firstComputed, firstUnfilled, -⟩ :=
      exists_read_of_readAt firstRead
    obtain ⟨lastMoment, lastLe, lastComputed, lastUnfilled, kept⟩ :=
      exists_read_of_readAt lastRead
    have afterDrop : between < lastMoment :=
      Nat.lt_of_not_le fun le => kept between le betweenLt dropped
    obtain ⟨-, -, -, firstStamp, firstStamps⟩ := firstComputed.of_unfilled firstUnfilled
    obtain ⟨-, -, -, lastStamp, -⟩ := lastComputed.of_unfilled lastUnfilled
    have grows : (worldAt calls (firstMoment + 1)).stamps ≤ (worldAt calls lastMoment).stamps :=
      stamps_le_of_le (by omega)
    omega
  current position snapshot read := by
    obtain ⟨moment, le, computed, unfilled, kept⟩ := exists_read_of_readAt read
    obtain ⟨-, -, current, -⟩ := computed.of_unfilled unfilled
    refine ⟨moment, le, computed, unfilled, current, fun dropped before invalidated => ?_⟩
    exact Nat.lt_of_not_le fun momentLe => kept dropped momentLe before invalidated
  asks _ := exists_reads_of_queriesAt_ne_nil
  filled _ _ _ read := read.of_filled
  traced _ _ read := read.tracedGather_eq
  succeeds _ _ read unfilled :=
    ⟨(read.of_unfilled unfilled).2.1, (read.of_unfilled unfilled).1⟩
  fails _ _ read := read.of_error
  once first last position snapshot source firstLe ltLast held unfilled kept succeed read := by
    have ordered : first ≤ last := Nat.le_trans firstLe (Nat.le_of_lt ltLast)
    rcases count_readQueriesAt_of_successful source ordered held unfilled kept succeed with
      ⟨-, noReads, -⟩ | ⟨-, once⟩
    · exact (noReads position _ firstLe ltLast read).elim
    · exact once
  counted _ _ _ ordered held := (queryCount?_worldAt ordered held).2

end Epochs

/-- A policy is read before its source has any certificates, read for its trust manager
when the source has one but fails, read in vain after an invalidation, and read again when
the source has recovered. -/
theorem epochs_of_failing_and_recovering_source :
    let policy : PolicyId := ⟨0⟩
    let source : SourceId := ⟨0⟩
    let supplying (certificates : List Certificate) (failing : Bool) : Source.Change :=
      { apply := fun source =>
          match source.store with
          | .counting store =>
              { source with store := .counting { store with certificates, failing } }
          | _ => source
        queryCount?_apply := by
          rintro ⟨_, store⟩
          cases store <;> rfl }
    let calls : List Call :=
      [.addSource ⟨"store", .counting { certificates := [] }⟩,
        .buildChain "policy" [Builder.blank.addRef ⟨source, false⟩] none,
        .trustAnchors policy, .changeSource source (supplying [namelessCertificate] true),
        .acceptedIssuers ⟨9, policy⟩, .invalidateAnchors policy, .trustAnchors policy,
        .changeSource source (supplying [namelessCertificate] false), .trustAnchors policy]
    ∃ earlier later raised,
      ReadAt calls policy 2 (.ok earlier) ∧ ReadAt calls policy 4 (.ok earlier) ∧
      InvalidatedAt calls policy 5 ∧ ReadAt calls policy 6 (.error raised) ∧
      ReadAt calls policy 8 (.ok later) ∧ earlier.stamp ≠ later.stamp ∧
      earlier.anchors.anchors = [] ∧
      later.anchors.anchors = [⟨namelessCertificate, false⟩] ∧
      (∃ moment, 5 < moment ∧ moment ≤ 8 ∧
        (worldAt calls moment).currentAnchors policy = .ok later.anchors.anchors) ∧
      cachedAt calls policy 7 = none ∧
      ((worldAt calls 9).sources.get source).queryCount? = some 3 := by
  intro policy source supplying calls
  have first : ReadAt calls policy 2 (.ok ⟨0, AnchorSet.empty⟩) :=
    ⟨by decide, ⟨_, rfl, rfl⟩, rfl⟩
  have whileFailing : ReadAt calls policy 4 ((worldAt calls 4).trustAnchors policy).1 :=
    ⟨by decide, ⟨_, rfl, rfl, rfl⟩, rfl⟩
  have dropped : InvalidatedAt calls policy 5 := ⟨_, rfl, rfl⟩
  have inVain : ReadAt calls policy 6 (.error (.certificateSource "store" "store unavailable")) :=
    ⟨by decide, ⟨_, rfl, rfl⟩, by decide +kernel⟩
  have last : ReadAt calls policy 8 (.ok ⟨1, AnchorSet.ofList [⟨namelessCertificate, false⟩]⟩) :=
    ⟨by decide, ⟨_, rfl, rfl⟩, by decide +kernel⟩
  have epochs := hasEpochs calls policy
  have same : ((worldAt calls 4).trustAnchors policy).1 = .ok ⟨0, AnchorSet.empty⟩ := by
    refine epochs.constant 2 4 _ _ (by decide) first whileFailing ?_
    rintro between afterFirst beforeLast ⟨call, present, invalidates⟩
    obtain rfl : between = 3 := by omega
    obtain rfl := Option.some_inj.1 present
    exact invalidates
  obtain ⟨-, unfilled, -⟩ := epochs.fails 6 _ inVain
  obtain ⟨moment, le, -, -, current, afterDrops⟩ := epochs.current 8 _ last
  refine ⟨_, _, _, first, same ▸ whileFailing, dropped, inVain, last, ?_, rfl, rfl, ?_,
    unfilled, ?_⟩
  · exact epochs.distinct 2 5 8 _ _ (by decide) (by decide) first dropped last
  · exact ⟨moment, afterDrops 5 (by decide) dropped, le, current⟩
  · have queries : ∑ moment ∈ Finset.Ico 1 9, (queriesAt calls moment).count source = 3 := by
      decide +kernel
    have counted := epochs.counted 1 9 source (by decide) (by decide)
    rw [queries] at counted
    exact counted

end World
end TrustPolicy
