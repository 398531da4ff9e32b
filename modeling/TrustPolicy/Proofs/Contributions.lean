import TrustPolicy.Proofs.Aggregation

/-!
# Contributions

What the references of a policy contribute depends on nothing but what their
sources supply at the moment. A read of an empty cell has that as its answer,
queries the sources in order up to the first that fails, and fills the cell if
none does. A read of a filled cell answers with the snapshot in it and changes
nothing.
-/

namespace TrustPolicy

namespace Source

/-- The number of queries that a source has noted, if it counts them. -/
def queryCount? (source : Source) : Option Nat :=
  match source.store with
  | .counting store => some store.queries
  | _ => none

/-- The source after a number of queries. -/
def queriedTimes
    (source : Source)
    (times : Nat) : Source :=
  match source.store with
  | .counting store =>
      { source with store := .counting { store with queries := store.queries + times } }
  | _ => source

@[simp] theorem queriedTimes_zero (source : Source) : source.queriedTimes 0 = source := by
  obtain ⟨label, store⟩ := source
  cases store <;> rfl

theorem queriedTimes_add
    (source : Source)
    (first second : Nat) :
    (source.queriedTimes first).queriedTimes second = source.queriedTimes (first + second) := by
  obtain ⟨label, store⟩ := source
  cases store with
  | counting store => simp [queriedTimes, Nat.add_assoc]
  | _ => rfl

theorem queriedTimes_one (source : Source) : source.queriedTimes 1 = source.queried := rfl

@[simp] theorem certificates_queriedTimes
    (source : Source)
    (times : Nat) :
    (source.queriedTimes times).certificates = source.certificates := by
  obtain ⟨label, store⟩ := source
  cases store <;> rfl

@[simp] theorem label_queriedTimes
    (source : Source)
    (times : Nat) :
    (source.queriedTimes times).label = source.label := by
  obtain ⟨label, store⟩ := source
  cases store <;> rfl

theorem queryCount?_queriedTimes
    (source : Source)
    (times : Nat) :
    (source.queriedTimes times).queryCount? = source.queryCount?.map (· + times) := by
  obtain ⟨label, store⟩ := source
  cases store <;> rfl

@[simp] theorem queryCount?_announced
    (source : Source)
    (look : PolicyId → Option Bool) :
    (source.announced look).queryCount? = source.queryCount? := by
  obtain ⟨label, store⟩ := source
  cases store <;> rfl

end Source

namespace World

/-- The anchors that references contribute in order, or the error of the first
reference whose source fails, under the label of the source. -/
def contributions (world : World) : List EntryRef → Except PolicyError (List Anchor)
  | [] => .ok []
  | entry :: rest =>
      match (world.sources.get entry.source).certificates with
      | .error error => .error (EntryRef.wrapError (world.label entry.source) error)
      | .ok certificates => (world.contributions rest).map (entry.anchorsOf certificates ++ ·)

/-- The references up to the first one whose source fails, this one included. -/
def asked (world : World) : List EntryRef → List EntryRef
  | [] => []
  | entry :: rest =>
      match (world.sources.get entry.source).certificates with
      | .error _ => [entry]
      | .ok _ => entry :: world.asked rest

/-- A query of a reference that is made in a world and notes its source besides. -/
def noteQuery
    (state : World × List SourceId)
    (entry : EntryRef) : Except PolicyError (List Anchor) × World × List SourceId :=
  ((state.1.queryRef entry).1, (state.1.queryRef entry).2, state.2 ++ [entry.source])

/-- A gathering whose queries note their sources. -/
def tracedGather
    (world : World)
    (noted : List SourceId)
    (gathered : AnchorSet)
    (entries : List EntryRef) : Except PolicyError AnchorSet × World × List SourceId :=
  gatherBy noteQuery (fun state entry error => (state.1.reportFailure entry error, state.2))
    (world, noted) gathered entries

/-- The world after one query of each source, in order. -/
def queryEach
    (world : World)
    (sources : List SourceId) : World :=
  sources.foldl (fun current source => current.modifySource source Source.queried) world

/-- The sources that a read of a policy's anchors queries, in order. -/
def readQueries
    (world : World)
    (policy : PolicyId) : List SourceId :=
  if (world.policies.get policy).anchors.isPopulated then []
  else (world.asked (world.policies.get policy).settings.entryRefs).map EntryRef.source

/-- The anchors that a policy has by what its sources supply now: those that its
references contribute, each fingerprint at its first occurrence. -/
def currentAnchors
    (world : World)
    (policy : PolicyId) : Except PolicyError (List Anchor) :=
  (world.contributions (world.policies.get policy).settings.entryRefs).map Anchor.firstOccurrences

section Contributions

variable
  {world : World}
  {entry : EntryRef}
  {entries : List EntryRef}
  {anchors : List Anchor}
  {gathered : AnchorSet}
  {raised : PolicyError}

/-- References contribute if the source of the first answers and the others contribute. -/
theorem contributions_cons_eq_ok_iff :
    world.contributions (entry :: entries) = .ok anchors ↔
      ∃ certificates restAnchors,
        (world.sources.get entry.source).certificates = .ok certificates ∧
        world.contributions entries = .ok restAnchors ∧
        anchors = entry.anchorsOf certificates ++ restAnchors := by
  cases answer : (world.sources.get entry.source).certificates with
  | error error => simp [contributions, answer]
  | ok certificates =>
      cases later : world.contributions entries with
      | error error => simp [contributions, answer, later, Except.map]
      | ok restAnchors => simp [contributions, answer, later, Except.map, eq_comm]

/-- References contribute if all of their sources answer. -/
theorem exists_supply_of_contributions_ok
    (contributes : world.contributions entries = .ok anchors) :
    ∃ supply : EntryRef → List Certificate,
      (∀ entry ∈ entries,
        (world.sources.get entry.source).certificates = .ok (supply entry)) ∧
      anchors = entries.flatMap fun entry => entry.anchorsOf (supply entry) := by
  refine ⟨fun entry =>
    (world.sources.get entry.source).certificates.toOption.getD [], ?_⟩
  induction entries generalizing anchors with
  | nil =>
      obtain rfl : [] = anchors := by simpa [contributions] using contributes
      simp
  | cons entry rest inductionHypothesis =>
      obtain ⟨certificates, restAnchors, answer, later, rfl⟩ :=
        contributions_cons_eq_ok_iff.1 contributes
      obtain ⟨restAnswers, rfl⟩ := inductionHypothesis later
      constructor
      · intro member present
        rcases List.mem_cons.1 present with rfl | inRest
        · simp [answer, Except.toOption]
        · exact restAnswers member inRest
      · simp [answer, Except.toOption]

/-- If all references contribute, all are asked. -/
theorem asked_of_contributions_ok
    (contributes : world.contributions entries = .ok anchors) :
    world.asked entries = entries := by
  induction entries generalizing anchors with
  | nil => rfl
  | cons entry rest inductionHypothesis =>
      obtain ⟨certificates, restAnchors, answer, later, _⟩ :=
        contributions_cons_eq_ok_iff.1 contributes
      simp [asked, answer, inductionHypothesis later]

/-- References that do not contribute have a first one whose source fails. -/
theorem exists_failing_of_contributions_error
    (fails : world.contributions entries = .error raised) :
    ∃ before entry after error, entries = before ++ entry :: after ∧
      (∀ earlier ∈ before, ∃ certificates,
        (world.sources.get earlier.source).certificates = .ok certificates) ∧
      (world.sources.get entry.source).certificates = .error error ∧
      raised = EntryRef.wrapError (world.label entry.source) error ∧
      world.asked entries = before ++ [entry] := by
  induction entries with
  | nil => simp [contributions] at fails
  | cons entry rest inductionHypothesis =>
      cases answer : (world.sources.get entry.source).certificates with
      | error error =>
          refine ⟨[], entry, rest, error, rfl, by simp, answer, ?_, by simp [asked, answer]⟩
          simpa [contributions, answer] using fails.symm
      | ok certificates =>
          have restFails : world.contributions rest = .error raised := by
            cases later : world.contributions rest with
            | error error => simpa [contributions, answer, later, Except.map] using fails
            | ok restAnchors => simp [contributions, answer, later, Except.map] at fails
          obtain ⟨before, failing, after, error, rfl, answers, failure, wrapped, askedRest⟩ :=
            inductionHypothesis restFails
          refine ⟨entry :: before, failing, after, error, rfl, ?_, failure, wrapped,
            by simp [asked, answer, askedRest]⟩
          intro earlier present
          rcases List.mem_cons.1 present with rfl | inRest
          · exact ⟨certificates, answer⟩
          · exact answers earlier inRest

theorem gather_of_contributions_ok
    (contributes : world.contributions entries = .ok anchors) :
    world.gather gathered entries = (.ok (gathered.extend anchors), world.queryAll entries) := by
  obtain ⟨supply, answers, rfl⟩ := exists_supply_of_contributions_ok contributes
  have gathers := gather_append gathered [] answers
  rw [List.append_nil] at gathers
  exact gathers

theorem gather_of_contributions_error
    (gathered : AnchorSet)
    (fails : world.contributions entries = .error raised) :
    ∃ label, world.gather gathered entries =
      (.error raised, (world.queryAll (world.asked entries)).report (.sourceFailed label raised)) := by
  obtain ⟨before, entry, after, error, rfl, answers, failure, rfl, askedEntries⟩ :=
    exists_failing_of_contributions_error fails
  refine ⟨world.label entry.source, ?_⟩
  rw [gather_of_error gathered after answers failure, askedEntries]

end Contributions

/-! ## Queries -/

section Queries

variable
  {world : World}
  {source : SourceId}
  {sources : List SourceId}
  {entries : List EntryRef}

/-- A query changes nothing about which references are asked. -/
theorem asked_modifySource_queried :
    (world.modifySource source Source.queried).asked entries = world.asked entries := by
  induction entries with
  | nil => rfl
  | cons entry rest inductionHypothesis =>
      rw [asked, asked, certificates_modifySource_queried, inductionHypothesis]

/-- A gathering asks the references in order up to the first one whose source fails, and
does not notice that its queries are noted. -/
theorem tracedGather_eq
    (noted : List SourceId)
    (gathered : AnchorSet) :
    world.tracedGather noted gathered entries =
      ((world.gather gathered entries).1, (world.gather gathered entries).2,
        noted ++ (world.asked entries).map EntryRef.source) := by
  induction entries generalizing world noted gathered with
  | nil => exact congrArg (fun kept => (_, _, kept)) (List.append_nil noted).symm
  | cons entry rest inductionHypothesis =>
      rw [tracedGather, gatherBy, noteQuery, gather_cons, asked]
      cases supplied : (world.sources.get entry.source).certificates with
      | error error =>
          rw [queryRef_of_error supplied]
          rfl
      | ok certificates =>
          rw [queryRef_of_ok supplied]
          dsimp only
          rw [← tracedGather, inductionHypothesis, asked_modifySource_queried, List.append_assoc]
          rfl

theorem queryAll_eq_queryEach :
    world.queryAll entries = world.queryEach (entries.map EntryRef.source) := by
  rw [queryAll, queryEach, List.foldl_map]

/-- A source notices each query of it and no other one. -/
theorem get_queryEach :
    (world.queryEach sources).sources.get source =
      (world.sources.get source).queriedTimes (sources.count source) := by
  induction sources generalizing world with
  | nil => simp [queryEach]
  | cons queried rest inductionHypothesis =>
      have first : (world.modifySource queried Source.queried).sources.get source =
          if source = queried then (world.sources.get source).queried
          else world.sources.get source :=
        Arena.get_modify rfl
      rw [queryEach, List.foldl_cons, ← queryEach, inductionHypothesis, first]
      by_cases same : source = queried
      · subst same
        rw [if_pos rfl, ← Source.queriedTimes_one, Source.queriedTimes_add,
          List.count_cons_self, Nat.add_comm]
      · rw [if_neg same, List.count_cons_of_ne (Ne.symm same)]

/-- Each query of a source that counts them is counted. -/
theorem queryCount?_queryEach :
    ((world.queryEach sources).sources.get source).queryCount? =
      (world.sources.get source).queryCount?.map (· + sources.count source) := by
  rw [get_queryEach, Source.queryCount?_queriedTimes]

theorem holds_queryEach :
    (world.queryEach sources).sources.Holds source ↔ world.sources.Holds source := by
  induction sources generalizing world with
  | nil => rfl
  | cons queried rest inductionHypothesis =>
      rw [queryEach, List.foldl_cons, ← queryEach, inductionHypothesis]
      exact Arena.holds_modify

/-- Queries change nothing but sources. -/
theorem queryAll_eq :
    world.queryAll entries = { world with sources := (world.queryAll entries).sources } := by
  induction entries generalizing world with
  | nil => rfl
  | cons entry entries inductionHypothesis => exact inductionHypothesis

theorem policies_gather
    {gathered : AnchorSet} :
    (world.gather gathered entries).2.policies = world.policies := by
  induction entries generalizing world gathered with
  | nil => rfl
  | cons entry rest inductionHypothesis =>
      cases supplied : (world.sources.get entry.source).certificates with
      | ok certificates =>
          rw [gather_cons, queryRef_of_ok supplied]
          exact inductionHypothesis
      | error error =>
          rw [gather_cons_of_error rest supplied]
          rfl

theorem stamps_queryAll :
    (world.queryAll entries).stamps = world.stamps := by
  rw [queryAll_eq]

end Queries

/-! ## Reads -/

section Reads

variable
  {world : World}
  {policy : PolicyId}
  {anchors : List Anchor}
  {snapshot : Snapshot}
  {raised : PolicyError}

/-- The world after a read of a policy's empty cell to which anchors were
contributed: the cell holds a new snapshot of them. -/
def filled
    (world : World)
    (policy : PolicyId)
    (anchors : List Anchor) : World :=
  let entries := (world.policies.get policy).settings.entryRefs
  ({ world.queryAll entries with stamps := world.stamps + 1 }.report
    (.computedAnchors (AnchorSet.ofList anchors).size entries.length)).modifyPolicy policy
      fun current => { current with anchors := ⟨some ⟨world.stamps, AnchorSet.ofList anchors⟩⟩ }

/-- A read of a filled cell answers with the snapshot in it and changes nothing. -/
theorem trustAnchors_of_slot_eq_some
    (cached : (world.policies.get policy).anchors.slot = some snapshot) :
    world.trustAnchors policy = (.ok snapshot, world) := by
  have cell : (world.policies.get policy).anchors = ⟨some snapshot⟩ := by
    rw [← cached]
  have unchanged : (world.modifyPolicy policy fun current =>
      { current with anchors := ⟨some snapshot⟩ }) = world := by
    rw [modifyPolicy, Arena.modify_eq_self]
    rw [← cell]
  rw [trustAnchors, cell, CacheCell.getOrTryInit_populated]
  exact congrArg (Prod.mk (Except.ok snapshot)) unchanged

/-- A read of an empty cell to which anchors are contributed makes a snapshot of
them and fills the cell with it. -/
theorem trustAnchors_of_contributions_ok
    (unfilled : (world.policies.get policy).anchors.slot = none)
    (contributes :
      world.contributions (world.policies.get policy).settings.entryRefs = .ok anchors) :
    world.trustAnchors policy =
      (.ok ⟨world.stamps, AnchorSet.ofList anchors⟩, world.filled policy anchors) := by
  have gathers : world.gather AnchorSet.empty (world.policies.get policy).settings.entryRefs =
      (.ok (AnchorSet.ofList anchors),
        world.queryAll (world.policies.get policy).settings.entryRefs) :=
    gather_of_contributions_ok contributes
  rw [trustAnchors_of_aggregate_ok (CacheCell.isPopulated_of_slot_eq_none unfilled)
    (aggregate_of_gather_ok gathers), stamps_queryAll]
  rfl

/-- A read of an empty cell to which some source refuses to contribute fails and
changes no policy. -/
theorem trustAnchors_of_contributions_error
    (unfilled : (world.policies.get policy).anchors.slot = none)
    (fails :
      world.contributions (world.policies.get policy).settings.entryRefs = .error raised) :
    ∃ label, world.trustAnchors policy =
      (.error raised,
        (world.queryAll (world.asked (world.policies.get policy).settings.entryRefs)).report
          (.sourceFailed label raised)) := by
  obtain ⟨label, gathers⟩ := gather_of_contributions_error AnchorSet.empty fails
  exact ⟨label, trustAnchors_of_aggregate_error (CacheCell.isPopulated_of_slot_eq_none unfilled)
    (aggregate_of_gather_error gathers) policies_queryAll⟩

/-- All that a read of a policy's anchors can do. -/
theorem trustAnchors_cases
    (world : World)
    (policy : PolicyId) :
    (∃ snapshot, (world.policies.get policy).anchors.slot = some snapshot ∧
      world.trustAnchors policy = (.ok snapshot, world)) ∨
    (world.policies.get policy).anchors.slot = none ∧
      ((∃ anchors,
        world.contributions (world.policies.get policy).settings.entryRefs = .ok anchors ∧
        world.trustAnchors policy =
          (.ok ⟨world.stamps, AnchorSet.ofList anchors⟩, world.filled policy anchors)) ∨
      ∃ raised label,
        world.contributions (world.policies.get policy).settings.entryRefs = .error raised ∧
        world.trustAnchors policy =
          (.error raised,
            (world.queryAll (world.asked (world.policies.get policy).settings.entryRefs)).report
              (.sourceFailed label raised))) := by
  cases cached : (world.policies.get policy).anchors.slot with
  | some snapshot => exact .inl ⟨snapshot, rfl, trustAnchors_of_slot_eq_some cached⟩
  | none =>
      refine .inr ⟨rfl, ?_⟩
      cases outcome : world.contributions (world.policies.get policy).settings.entryRefs with
      | ok anchors => exact .inl ⟨anchors, rfl, trustAnchors_of_contributions_ok cached outcome⟩
      | error raised =>
          obtain ⟨label, fails⟩ := trustAnchors_of_contributions_error cached outcome
          exact .inr ⟨raised, label, rfl, fails⟩

/-- A read of an empty cell is given the anchors that the sources supply now, or the error
of the first one that fails. -/
theorem trustAnchors_fst_of_slot_eq_none
    (unfilled : (world.policies.get policy).anchors.slot = none) :
    (world.trustAnchors policy).1.map (fun snapshot => snapshot.anchors.anchors) =
      world.currentAnchors policy := by
  rcases world.trustAnchors_cases policy with
    ⟨_, cached, _⟩ | ⟨-, ⟨anchors, contributes, computed⟩ | ⟨raised, _, fails, failed⟩⟩
  · exact absurd (unfilled.symm.trans cached) (by simp)
  · rw [computed, currentAnchors, contributes]
    exact congrArg Except.ok (AnchorSet.anchors_ofList anchors)
  · rw [failed, currentAnchors, fails]
    rfl

/-- A read that computes a snapshot gives it a new stamp and the anchors that the
policy has by what its sources supply now, queries the source of each reference
once, and fills the cell. -/
theorem trustAnchors_computes
    (held : world.policies.Holds policy)
    (unfilled : (world.policies.get policy).anchors.slot = none)
    (answer : (world.trustAnchors policy).1 = .ok snapshot) :
    world.currentAnchors policy = .ok snapshot.anchors.anchors ∧
      snapshot.stamp = world.stamps ∧
      (world.trustAnchors policy).2.stamps = world.stamps + 1 ∧
      (world.trustAnchors policy).2.sources =
        (world.queryAll (world.policies.get policy).settings.entryRefs).sources ∧
      ((world.trustAnchors policy).2.policies.get policy).anchors.slot = some snapshot := by
  rcases world.trustAnchors_cases policy with
    ⟨_, cached, _⟩ | ⟨_, ⟨anchors, contributes, computed⟩ | ⟨_, _, _, failed⟩⟩
  · exact absurd (unfilled.symm.trans cached) (by simp)
  · obtain rfl : (⟨world.stamps, AnchorSet.ofList anchors⟩ : Snapshot) = snapshot := by
      simpa [computed] using answer
    have samePolicies : (world.queryAll (world.policies.get policy).settings.entryRefs).policies =
        world.policies := policies_queryAll
    refine ⟨?_, rfl, by rw [computed]; rfl, by rw [computed]; rfl, ?_⟩
    · rw [currentAnchors, contributes, AnchorSet.anchors_ofList]
      rfl
    · rw [computed]
      exact congrArg (fun current => current.anchors.slot)
        (Arena.get_modify_self (samePolicies ▸ held))
  · exact absurd (failed ▸ answer) (by simp)

/-- A read that fails has found the cell empty and leaves it so, and has queried the
sources of the references up to the first one whose source fails. -/
theorem trustAnchors_fails
    (answer : (world.trustAnchors policy).1 = .error raised) :
    (world.policies.get policy).anchors.slot = none ∧
      (world.trustAnchors policy).2.policies = world.policies ∧
      world.currentAnchors policy = .error raised ∧
      ∃ before entry after error,
        (world.policies.get policy).settings.entryRefs = before ++ entry :: after ∧
        (∀ earlier ∈ before, ∃ certificates,
          (world.sources.get earlier.source).certificates = .ok certificates) ∧
        (world.sources.get entry.source).certificates = .error error ∧
        (world.trustAnchors policy).2.sources = (world.queryAll (before ++ [entry])).sources := by
  rcases world.trustAnchors_cases policy with
    ⟨_, _, cached⟩ | ⟨unfilled, ⟨_, _, computed⟩ | ⟨found, label, fails, failed⟩⟩
  · exact absurd (cached ▸ answer) (by simp)
  · exact absurd (computed ▸ answer) (by simp)
  · obtain rfl : found = raised := by simpa [failed] using answer
    obtain ⟨before, entry, after, error, split, answers, failure, _, askedEntries⟩ :=
      exists_failing_of_contributions_error fails
    refine ⟨unfilled, by rw [failed]; exact policies_queryAll, ?_,
      before, entry, after, error, split, answers, failure, ?_⟩
    · rw [currentAnchors, fails]
      rfl
    · rw [failed, ← askedEntries]
      rfl

theorem readQueries_of_slot_eq_some
    (cached : (world.policies.get policy).anchors.slot = some snapshot) :
    world.readQueries policy = [] := by
  rw [readQueries, CacheCell.isPopulated, cached]
  rfl

theorem readQueries_of_slot_eq_none
    (unfilled : (world.policies.get policy).anchors.slot = none) :
    world.readQueries policy =
      (world.asked (world.policies.get policy).settings.entryRefs).map EntryRef.source := by
  rw [readQueries, CacheCell.isPopulated_of_slot_eq_none unfilled]
  rfl

/-- A read queries just the sources that it is said to query. -/
theorem sources_trustAnchors :
    (world.trustAnchors policy).2.sources = (world.queryEach (world.readQueries policy)).sources := by
  rcases world.trustAnchors_cases policy with
    ⟨_, cached, answer⟩ | ⟨unfilled, ⟨_, contributes, answer⟩ | ⟨_, _, _, answer⟩⟩
  · rw [answer, readQueries_of_slot_eq_some cached]
    rfl
  · rw [answer, readQueries_of_slot_eq_none unfilled, asked_of_contributions_ok contributes,
      ← queryAll_eq_queryEach]
    rfl
  · rw [answer, readQueries_of_slot_eq_none unfilled, ← queryAll_eq_queryEach]
    rfl

/-- A read changes nothing but sources, stamps, and the anchors of the policy, and
reports. -/
theorem exists_trustAnchors_snd_eq
    (world : World)
    (policy : PolicyId) :
    ∃ sources cell stamps events, world.stamps ≤ stamps ∧
      (world.trustAnchors policy).2 =
        { world with
          sources := sources
          policies := world.policies.modify policy fun current => { current with anchors := cell }
          stamps := stamps
          events := events } := by
  have unchanged : (world.policies.modify policy fun current =>
      { current with anchors := (world.policies.get policy).anchors }) = world.policies :=
    Arena.modify_eq_self rfl
  rcases world.trustAnchors_cases policy with
    ⟨_, _, answer⟩ | ⟨_, ⟨_, _, answer⟩ | ⟨raised, label, _, answer⟩⟩
  · refine ⟨world.sources, (world.policies.get policy).anchors, world.stamps, world.events,
      Nat.le_refl _, ?_⟩
    rw [answer, unchanged]
  · rw [filled, queryAll_eq] at answer
    exact ⟨_, _, _, _, Nat.le_succ _, congrArg Prod.snd answer⟩
  · refine ⟨(world.queryAll (world.asked (world.policies.get policy).settings.entryRefs)).sources,
      (world.policies.get policy).anchors, world.stamps,
      world.events ++ [.sourceFailed label raised], Nat.le_refl _, ?_⟩
    rw [answer, unchanged, queryAll_eq]
    rfl

end Reads

end World
end TrustPolicy
