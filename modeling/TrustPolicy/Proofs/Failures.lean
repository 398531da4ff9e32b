import TrustPolicy.Proofs.Calls
import TrustPolicy.Proofs.Reads

/-!
# Failures

A call that fails leaves everything as it was, but for the notes of counting
sources that were queried and of counting factories that were asked. Callers that
ask for the same one after another fail all or none.
-/

namespace TrustPolicy

namespace Factory

/-- The factory after requests for policies. -/
def requestedFor
    (factory : Factory)
    (policies : List PolicyId) : Factory :=
  { factory with
    requests := factory.requests + policies.length
    bound := factory.bound ++ policies }

@[simp] theorem requestedFor_nil (factory : Factory) : factory.requestedFor [] = factory := by
  simp [requestedFor]

theorem requestedFor_append
    (factory : Factory)
    (first second : List PolicyId) :
    (factory.requestedFor first).requestedFor second = factory.requestedFor (first ++ second) := by
  simp [requestedFor, Nat.add_assoc]

end Factory

namespace World

/-- A request to a factory for a policy. -/
abbrev Request := FactoryId × PolicyId

/-- The policies that a factory was asked for, in order. -/
def requestsTo
    (requests : List Request)
    (factory : FactoryId) : List PolicyId :=
  (requests.filter fun request => request.1 = factory).map Prod.snd

theorem requestsTo_append
    {first second : List Request}
    {factory : FactoryId} :
    requestsTo (first ++ second) factory =
      requestsTo first factory ++ requestsTo second factory := by
  simp [requestsTo]

/-- Whether two worlds are the same but for the notes that sources and factories have
made of queries and requests in between, and for reports of failed sources. -/
structure DiffersInCounts
    (before after : World)
    (queries : List SourceId)
    (requests : List Request) : Prop where
  sources : ∀ source, after.sources.get source =
    (before.sources.get source).queriedTimes (queries.count source)
  factories : ∀ factory, before.factories.Holds factory →
    after.factories.get factory =
      (before.factories.get factory).requestedFor (requestsTo requests factory)
  heldSources : ∀ source, after.sources.Holds source ↔ before.sources.Holds source
  heldFactories : ∀ factory, after.factories.Holds factory ↔ before.factories.Holds factory
  events : ∃ reports, after.events = before.events ++ reports ∧
    ∀ event ∈ reports, ∃ label error, event = .sourceFailed label error
  /-- All else is the same. -/
  rest : after =
    { before with
      sources := after.sources
      factories := after.factories
      events := after.events }

namespace Call

/-- The requests that a call makes to factories. -/
def requests (world : World) : Call → List Request
  | .trustManager policy =>
      let found := world.policies.get policy
      if found.manager.isPopulated then []
      else (found.factory.map fun factory => (factory, found.this)).toList
  | _ => []

/-- Whether a call fails. -/
def Fails (world : World) : Call → Prop
  | .trustAnchors policy => ∃ raised, (world.trustAnchors policy).1 = .error raised
  | .acceptedIssuers manager => ∃ raised, (world.acceptedIssuers manager).1 = .error raised
  | .trustManager policy => ∃ raised, (world.trustManager policy).1 = .error raised
  | .querySource source => ∃ raised, (world.querySource source).1 = .error raised
  | _ => False

end Call

/-- The sources that calls in order query. -/
def queriesAlong (world : World) : List Call → List SourceId
  | [] => []
  | call :: rest => call.queries world ++ (world.perform call).queriesAlong rest

/-- The requests that calls in order make. -/
def requestsAlong (world : World) : List Call → List Request
  | [] => []
  | call :: rest => call.requests world ++ (world.perform call).requestsAlong rest

/-- Whether all calls in order fail. -/
def AllFail (world : World) : List Call → Prop
  | [] => True
  | call :: rest => call.Fails world ∧ (world.perform call).AllFail rest

section Failures

variable
  {world before between after : World}
  {policy : PolicyId}
  {call : Call}
  {calls : List Call}
  {queries later : List SourceId}
  {requests laterRequests : List Request}

namespace DiffersInCounts

theorem refl
    (world : World) :
    world.DiffersInCounts world [] [] where
  sources _ := (Source.queriedTimes_zero _).symm
  factories _ _ := (Factory.requestedFor_nil _).symm
  heldSources _ := Iff.rfl
  heldFactories _ := Iff.rfl
  events := ⟨[], (List.append_nil _).symm, by simp⟩
  rest := rfl

theorem trans
    (first : before.DiffersInCounts between queries requests)
    (second : between.DiffersInCounts after later laterRequests) :
    before.DiffersInCounts after (queries ++ later) (requests ++ laterRequests) where
  sources source := by
    rw [second.sources, first.sources, Source.queriedTimes_add, List.count_append]
  factories factory held := by
    rw [second.factories factory ((first.heldFactories factory).2 held),
      first.factories factory held, Factory.requestedFor_append, requestsTo_append]
  heldSources source := (second.heldSources source).trans (first.heldSources source)
  heldFactories factory := (second.heldFactories factory).trans (first.heldFactories factory)
  events := by
    obtain ⟨reports, eq, failures⟩ := first.events
    obtain ⟨laterReports, laterEq, laterFailures⟩ := second.events
    refine ⟨reports ++ laterReports, by rw [laterEq, eq, List.append_assoc], ?_⟩
    intro event present
    exact (List.mem_append.1 present).elim (failures event) (laterFailures event)
  rest := by
    rw [second.rest, first.rest]

/-- Queries, with reports of failures. -/
theorem of_queries
    {reports : List Event}
    (failures : ∀ event ∈ reports, ∃ label error, event = .sourceFailed label error)
    (eq : after =
      { before with
        sources := (before.queryEach queries).sources
        events := before.events ++ reports }) :
    before.DiffersInCounts after queries [] where
  sources source := by
    rw [eq]
    exact get_queryEach
  factories _ _ := by
    rw [eq]
    exact (Factory.requestedFor_nil _).symm
  heldSources source := by
    rw [eq]
    exact holds_queryEach
  heldFactories factory := by rw [eq]
  events := ⟨reports, by rw [eq], failures⟩
  rest := by rw [eq]

end DiffersInCounts

theorem queriesAlong_append
    {first second : List Call} :
    world.queriesAlong (first ++ second) =
      world.queriesAlong first ++ (world.performAll first).queriesAlong second := by
  induction first generalizing world with
  | nil => rfl
  | cons call rest inductionHypothesis =>
      rw [List.cons_append, queriesAlong, queriesAlong, inductionHypothesis, List.append_assoc]
      rfl

theorem requestsAlong_append
    {first second : List Call} :
    world.requestsAlong (first ++ second) =
      world.requestsAlong first ++ (world.performAll first).requestsAlong second := by
  induction first generalizing world with
  | nil => rfl
  | cons call rest inductionHypothesis =>
      rw [List.cons_append, requestsAlong, requestsAlong, inductionHypothesis, List.append_assoc]
      rfl

/-- A read that fails changes nothing but notes of its queries. -/
theorem differsInCounts_of_trustAnchors
    (fails : ∃ raised, (world.trustAnchors policy).1 = .error raised) :
    world.DiffersInCounts (world.trustAnchors policy).2 (world.readQueries policy) [] := by
  obtain ⟨raised, answer⟩ := fails
  rcases world.trustAnchors_cases policy with
    ⟨_, _, cached⟩ | ⟨unfilled, ⟨_, _, computed⟩ | ⟨found, label, _, failed⟩⟩
  · exact absurd (cached ▸ answer) (by simp)
  · exact absurd (computed ▸ answer) (by simp)
  · have reported : ∀ event ∈ [Event.sourceFailed label found],
        ∃ label error, event = .sourceFailed label error := by simp
    refine .of_queries reported ?_
    rw [failed, readQueries_of_slot_eq_none unfilled, ← queryAll_eq_queryEach, queryAll_eq]
    rfl

/-- A request to a factory is noted by it and by no other one. -/
theorem differsInCounts_requested
    (factory : FactoryId)
    (policy : PolicyId) :
    world.DiffersInCounts (world.requested (some factory) policy) [] [(factory, policy)] where
  sources _ := (Source.queriedTimes_zero _).symm
  factories other held := by
    by_cases same : factory = other
    · subst same
      have noted : (world.requested (some factory) policy).factories.get factory =
          (world.factories.get factory).requested policy := Arena.get_modify_self held
      rw [noted]
      simp [requestsTo, Factory.requested, Factory.requestedFor]
    · have unchanged : (world.requested (some factory) policy).factories.get other =
          world.factories.get other := Arena.get_modify_of_ne (Ne.symm same)
      rw [unchanged]
      simp [requestsTo, same]
  heldSources _ := Iff.rfl
  heldFactories _ := Arena.holds_modify
  events := ⟨[], (List.append_nil _).symm, by simp⟩
  rest := rfl

/-- A call that fails changes nothing but notes of its queries and requests. -/
theorem differsInCounts_of_fails
    (fails : call.Fails world) :
    world.DiffersInCounts (world.perform call) (call.queries world) (call.requests world) := by
  cases call with
  | trustAnchors policy => exact differsInCounts_of_trustAnchors fails
  | acceptedIssuers manager =>
      rw [perform_acceptedIssuers, Call.queries]
      split
      case isTrue alive =>
        refine differsInCounts_of_trustAnchors ?_
        obtain ⟨raised, answer⟩ := fails
        rw [acceptedIssuers_of_alive alive] at answer
        cases outcome : (world.trustAnchors manager.policy).1 with
        | error raised => exact ⟨raised, rfl⟩
        | ok snapshot => simp [outcome, Except.map] at answer
      case isFalse => exact .refl world
  | trustManager policy =>
      obtain ⟨raised, answer⟩ := fails
      rcases world.trustManager_cases policy with
        ⟨_, _, cached⟩ | ⟨unfilled, ⟨_, granted⟩ | ⟨factory, asked, _, refused⟩⟩
      · exact absurd (cached ▸ answer) (by simp)
      · exact absurd (granted ▸ answer) (by simp)
      · rw [perform, refused, Call.requests, CacheCell.isPopulated_of_slot_eq_none unfilled, asked]
        exact differsInCounts_requested factory _
  | querySource source =>
      have noReports : ∀ event ∈ ([] : List Event), ∃ label error,
          event = .sourceFailed label error := by simp
      refine .of_queries noReports ?_
      rw [List.append_nil]
      rfl
  | _ => exact fails.elim

theorem differsInCounts_of_allFail
    (fail : world.AllFail calls) :
    world.DiffersInCounts (world.performAll calls) (world.queriesAlong calls)
      (world.requestsAlong calls) := by
  induction calls generalizing world with
  | nil => exact .refl world
  | cons call rest inductionHypothesis =>
      exact (differsInCounts_of_fails fail.1).trans (inductionHypothesis fail.2)

/-! ## Callers that ask for the same -/

/-- A read after a read succeeds if and only if this one did. -/
theorem isOk_trustAnchors_again :
    ((world.trustAnchors policy).2.trustAnchors policy).1.isOk =
      (world.trustAnchors policy).1.isOk := by
  rw [isOk_trustAnchors, isOk_trustAnchors, readSet_after_trustAnchors]

/-- A request after a request succeeds if and only if this one did. -/
theorem isOk_trustManager_again :
    ((world.trustManager policy).2.trustManager policy).1.isOk =
      (world.trustManager policy).1.isOk := by
  rcases world.trustManager_cases policy with
    ⟨_, _, answer⟩ | ⟨unfilled, ⟨_, answer⟩ | ⟨factory, asked, failing, answer⟩⟩
  · rw [answer, answer]
  · rw [answer]
    rcases (world.granted policy).trustManager_cases policy with
      ⟨_, _, next⟩ | ⟨unfilledNext, ⟨_, next⟩ | ⟨factory, asked, _, _⟩⟩
    · rw [next]
      rfl
    · rw [next]
      rfl
    · rw [policies_granted] at unfilledNext asked
      by_cases held : world.policies.Holds policy
      · rw [Arena.get_modify_self held] at unfilledNext
        exact absurd unfilledNext (by simp)
      · rw [Arena.get_of_not_holds (mt Arena.holds_modify.1 held)] at asked
        exact absurd asked (by simp [default, Policy.ofSettings])
  · rw [answer]
    have stillFailing :
        ((world.requested (some factory) (world.policies.get policy).this).factories.get
          factory).failing = true := by
      rcases world.factories.get_modify_cases factory factory
          (fun current => current.requested (world.policies.get policy).this) with same | changed
      · exact (congrArg Factory.failing same).trans failing
      · exact (congrArg Factory.failing changed).trans failing
    rcases (world.requested (some factory)
        (world.policies.get policy).this).trustManager_cases policy with
      ⟨_, cached, _⟩ | ⟨_, ⟨working, _⟩ | ⟨_, _, _, next⟩⟩
    · exact absurd (unfilled.symm.trans cached) (by simp)
    · exact absurd (stillFailing.symm.trans (working factory asked)) (by simp)
    · rw [next]

section Repeated

variable
  {α : Type}
  {ask : World → Except PolicyError α × World}
  {raised : PolicyError}

/-- If the first of several callers fails, all of them do. -/
theorem allFail_replicate
    (asks : ∀ world, (ask world).2 = world.perform call)
    (fails : ∀ world, (ask world).1.isOk = false → call.Fails world)
    (again : ∀ world, (ask (ask world).2).1.isOk = (ask world).1.isOk)
    (callers : Nat)
    (first : (ask world).1.isOk = false) :
    world.AllFail (List.replicate callers call) := by
  induction callers generalizing world with
  | zero => trivial
  | succ callers inductionHypothesis =>
      refine ⟨fails world first, ?_⟩
      rw [← asks]
      exact inductionHypothesis ((again world).trans first)

end Repeated

end Failures

end World
end TrustPolicy
