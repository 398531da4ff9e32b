import TrustPolicy.Proofs.Failures
import TrustPolicy.Proofs.Forest
import TrustPolicy.Proofs.SessionCalls

/-!
# Refusals

A step that answers with an error leaves the session as it was: its builders and
their links, its policies with their cells, its sources, notifiers, names, and the
slot for the default policy. Only counting sources that were queried and counting
factories that were asked have made their notes.
-/

namespace TrustPolicy

/-- Whether one of the resolved values is an error. -/
def EffectiveListing.isError (listing : EffectiveListing) : Bool :=
  !(listing.cleartextPermitted.isOk && listing.hstsEnforced.isOk && listing.pins.isOk &&
    listing.entryRefs.isOk)

/-- Whether an answer tells of an error. -/
def Answer.isError : Answer → Bool
  | .refused _ | .unbound _ | .unsuitable _ | .brokenOff | .notInitialized _ _ => true
  | .effective listing => listing.isError
  | .boundManager _ _ issuers => !issuers.isOk
  | _ => false

open World (Call)

namespace Session

/-- Whether two sessions are the same but for notes of queries and requests. -/
structure Unchanged
    (before after : Session)
    (queries : List SourceId)
    (requests : List World.Request) : Prop where
  world : before.world.DiffersInCounts after.world queries requests
  cells : ∀ name, after.cells.find? name = before.cells.find? name
  /-- All else is the same. -/
  rest : after = { before with world := after.world, cells := after.cells }

namespace Unchanged

theorem refl
    (session : Session) :
    session.Unchanged session [] [] :=
  ⟨.refl session.world, fun _ => rfl, rfl⟩

theorem trans
    {before between after : Session}
    {queries later : List SourceId}
    {requests laterRequests : List World.Request}
    (first : before.Unchanged between queries requests)
    (second : between.Unchanged after later laterRequests) :
    before.Unchanged after (queries ++ later) (requests ++ laterRequests) where
  world := first.world.trans second.world
  cells name := (second.cells name).trans (first.cells name)
  rest := by rw [second.rest, first.rest]

end Unchanged

section Refusing

variable
  {session next : Session}
  {answer : Answer}
  {calls : List Call}

/-- Whether an attempt with some calls leaves the session unchanged if its answer is
an error. -/
def KeepsIfRefused
    (session : Session)
    (calls : List Call)
    (attempt : Except Answer (Answer × Session)) : Prop :=
  (session.settle attempt).1.isError = true →
    session.Unchanged (session.settle attempt).2 (session.world.queriesAlong calls)
      (session.world.requestsAlong calls)

section Binding

variable
  {attempt : Except Answer α}
  {callsFor : α → List Call}
  {rest : α → Except Answer (Answer × Session)}

theorem keeps_bind
    (keeps : ∀ value, attempt = .ok value → session.KeepsIfRefused (callsFor value) (rest value)) :
    session.KeepsIfRefused (callsOn attempt callsFor) (attempt >>= rest) := by
  cases attempt with
  | ok value => exact keeps value rfl
  | error answer => exact fun _ => .refl session

theorem keeps_nil_bind
    (keeps : ∀ value, attempt = .ok value → session.KeepsIfRefused [] (rest value)) :
    session.KeepsIfRefused [] (attempt >>= rest) := by
  cases attempt with
  | ok value => exact keeps value rfl
  | error answer => exact fun _ => .refl session

end Binding

/-- Nothing is asked of an attempt whose answer is no error. -/
theorem keeps_of_answer
    (clean : answer.isError = false) :
    session.KeepsIfRefused calls (.ok (answer, next)) :=
  fun refused => absurd (clean.symm.trans refused) (by simp)

theorem keeps_same : session.KeepsIfRefused [] (.ok (answer, session)) :=
  fun _ => .refl session

theorem keeps_error : session.KeepsIfRefused [] (.error answer) :=
  fun _ => .refl session

theorem exists_error_of_isOk
    {result : Except PolicyError α}
    (failed : result.isOk = false) :
    ∃ raised, result = .error raised := by
  cases result with
  | ok value => simp [Except.isOk, Except.toBool] at failed
  | error raised => exact ⟨raised, rfl⟩

theorem exists_ok_of_isOk
    {result : Except PolicyError α}
    (succeeded : result.isOk = true) :
    ∃ value, result = .ok value := by
  cases result with
  | ok value => exact ⟨value, rfl⟩
  | error raised => simp [Except.isOk, Except.toBool] at succeeded

theorem exists_error_of_answerOf
    {render : α → Answer}
    {result : Except PolicyError α}
    (clean : ∀ value, (render value).isError = false)
    (refused : (answerOf render result).isError = true) :
    ∃ raised, result = .error raised := by
  cases result with
  | ok value => exact absurd ((clean value).symm.trans refused) (by simp)
  | error raised => exact ⟨raised, rfl⟩

/-- Calls that all fail leave the session unchanged. -/
theorem keeps_of_allFail
    (fail : answer.isError = true → session.world.AllFail calls) :
    session.KeepsIfRefused calls
      (.ok (answer, session.withWorld (session.world.performAll calls))) :=
  fun refused => ⟨World.differsInCounts_of_allFail (fail refused), fun _ => rfl, rfl⟩

/-- If the first of several callers succeeds, all of them do. -/
theorem isOk_stampsOf
    {α : Type}
    {ask : World → Except PolicyError α × World}
    {stamp : α → Nat}
    (again : ∀ world, (ask (ask world).2).1.isOk = (ask world).1.isOk)
    (callers : Nat)
    {world : World}
    (first : (ask world).1.isOk = true) :
    (stampsOf stamp (askRepeatedly ask callers world).1).isOk = true := by
  induction callers generalizing world with
  | zero => rfl
  | succ callers inductionHypothesis =>
      obtain ⟨value, answer⟩ := exists_ok_of_isOk first
      obtain ⟨stamps, rest⟩ :=
        exists_ok_of_isOk (inductionHypothesis ((again world).trans first))
      rw [askRepeatedly]
      dsimp only
      rw [answer, stampsOf, rest]
      rfl

/-- Callers that ask for the same one after another leave the session unchanged if one
of them fails, because then all do. -/
theorem keeps_answerAgreement
    {α : Type}
    {ask : World → Except PolicyError α × World}
    {stamp : α → Nat}
    {call : Call}
    {callers : Nat}
    (asks : ∀ world, (ask world).2 = World.perform world call)
    (fails : ∀ world, (ask world).1.isOk = false → call.Fails world)
    (again : ∀ world, (ask (ask world).2).1.isOk = (ask world).1.isOk) :
    session.KeepsIfRefused (List.replicate callers call)
      (.ok (session.answerAgreement stamp ask callers)) := by
  have outcome := askRepeatedly_snd asks callers session.world
  rw [answerAgreement]
  dsimp only
  rw [outcome]
  refine keeps_of_allFail fun refused => World.allFail_replicate asks fails again callers ?_
  obtain ⟨raised, failed⟩ := exists_error_of_answerOf (fun _ => rfl) refused
  cases first : (ask session.world).1.isOk with
  | false => rfl
  | true =>
      have agreed : (stampsOf stamp (askRepeatedly ask callers session.world).1).isOk = true :=
        isOk_stampsOf again callers first
      obtain ⟨stamps, succeeded⟩ := exists_ok_of_isOk agreed
      exact absurd (failed.symm.trans succeeded) (by simp)

end Refusing

end Session

section Steps

open Session

variable {session : Session}

theorem SourceStep.keepsIfRefused
    (step : SourceStep) :
    session.KeepsIfRefused (step.calls session) (step.run session) := by
  cases step with
  | decode name der =>
      rw [SourceStep.run, SourceStep.calls]
      split
      · exact keeps_error
      · exact keeps_of_answer rfl
  | compare _ _ | compareRefs _ _ =>
      exact keeps_nil_bind fun _ _ => keeps_nil_bind fun _ _ => keeps_same
  | countDistinct _ => exact keeps_nil_bind fun _ _ => keeps_same
  | make name label kind names => exact keeps_bind fun _ _ => keeps_of_answer rfl
  | view name =>
      refine keeps_bind fun id _ => keeps_of_allFail fun refused => ⟨?_, trivial⟩
      exact exists_error_of_answerOf (fun _ => rfl) refused
  | add name certificate | remove name certificate =>
      refine keeps_bind fun id _ => keeps_bind fun certificate _ => ?_
      split
      · exact keeps_of_answer rfl
      · exact fun _ => .refl session
  | replace name names => exact keeps_bind fun _ _ => keeps_bind fun _ _ => keeps_of_answer rfl
  | setFailing name _ | setFailure name _ =>
      refine keeps_bind fun id _ => ?_
      split
      · exact keeps_of_answer rfl
      · exact fun _ => .refl session
  | stats name =>
      refine keeps_nil_bind fun id _ => ?_
      split
      · exact keeps_same
      · exact keeps_same
      · exact keeps_error
  | watch name policy =>
      refine keeps_bind fun id _ => keeps_bind fun policy _ => ?_
      split
      · exact keeps_of_answer rfl
      · exact fun _ => .refl session
  | queryRef form =>
      refine keeps_bind fun entry _ => ?_
      cases supplied : (session.world.sources.get entry.source).certificates with
      | ok certificates =>
          rw [World.queryRef_of_ok supplied]
          exact keeps_of_answer rfl
      | error raised =>
          rw [World.queryRef_of_error supplied]
          exact keeps_of_allFail fun _ => ⟨⟨raised, supplied⟩, trivial⟩

theorem BuilderStep.keepsIfRefused
    (step : BuilderStep) :
    session.KeepsIfRefused (step.calls session) (step.run session) := by
  cases step with
  | make _ _ _ | insert _ _ _ =>
      exact keeps_nil_bind fun _ _ => keeps_nil_bind fun _ _ => keeps_of_answer rfl
  | view _ | setSize _ => exact keeps_nil_bind fun _ _ => keeps_same
  | build _ _ _ => exact keeps_bind fun _ _ => keeps_bind fun _ _ => keeps_of_answer rfl
  | makeSet _ => exact keeps_of_answer rfl
  | update name id calls breaksOff =>
      refine keeps_nil_bind fun set bound => keeps_nil_bind fun id _ => ?_
      have stays {changed : BuilderSet}
          (same : changed = set) :
          { session with sets := session.sets.put name changed } = session := by
        rw [same, Bindings.put_of_find? (look_eq_ok_iff.1 bound)]
      dsimp only
      split
      case h_1 raised refused =>
        rw [stays (BuilderSet.update_of_ne_ok (by simp [refused]))]
        exact keeps_same
      case h_2 answer brokenOff =>
        rw [stays (BuilderSet.update_of_ne_ok (by simp [brokenOff]))]
        exact keeps_same
      case h_3 => exact keeps_of_answer rfl
  | get _ _ =>
      exact keeps_nil_bind fun _ _ => keeps_nil_bind fun _ _ => keeps_nil_bind fun _ _ => keeps_same
  | effective _ _ => exact keeps_nil_bind fun _ _ => keeps_nil_bind fun _ _ => keeps_same
  | setParent name child parent =>
      refine keeps_nil_bind fun set bound => keeps_nil_bind fun child _ =>
        keeps_nil_bind fun parent _ => ?_
      dsimp only
      split
      case h_1 raised refused =>
        rw [BuilderSet.setParent_of_error refused,
          Bindings.put_of_find? (look_eq_ok_iff.1 bound)]
        exact keeps_same
      case h_2 => exact keeps_of_answer rfl
  | parentOf _ _ =>
      refine keeps_nil_bind fun _ _ => keeps_nil_bind fun _ _ => keeps_nil_bind fun parent _ => ?_
      cases parent <;> exact keeps_same
  | buildIn name id policy factory =>
      refine keeps_bind fun set _ => keeps_bind fun id _ => keeps_bind fun factory _ => ?_
      dsimp only [World.buildIn]
      cases set.chain id with
      | error raised => exact fun _ => .refl session
      | ok chain => exact keeps_of_answer rfl

theorem ValueStep.keepsIfRefused
    (step : ValueStep) :
    session.KeepsIfRefused (step.calls session) (step.run session) := by
  cases step with
  | makeCell _ => exact keeps_of_answer rfl
  | viewCell _ | viewAnchorSet _ => exact keeps_nil_bind fun _ _ => keeps_same
  | invalidateCell _ | makeAnchorSet _ _ | defaultBuilder _ _ =>
      exact keeps_nil_bind fun _ _ => keeps_of_answer rfl
  | insertAnchor _ _ | extendAnchorSet _ _ =>
      exact keeps_nil_bind fun _ _ => keeps_nil_bind fun _ _ => keeps_of_answer rfl
  | findAnchor _ _ | compareAnchorSets _ _ =>
      exact keeps_nil_bind fun _ _ => keeps_nil_bind fun _ _ => keeps_same
  | initializeCell name outcome =>
      refine keeps_nil_bind fun cell bound => ?_
      obtain ⟨_ | value⟩ := cell
      · cases outcome with
        | ok value => exact keeps_of_answer rfl
        | error failure =>
            refine fun _ => ⟨.refl session.world, fun other => ?_, rfl⟩
            exact Bindings.find?_assign_of_find? (look_eq_ok_iff.1 bound)
      · exact keeps_of_answer rfl
  | makeDefaultSources name given =>
      cases given with
      | none => exact keeps_of_answer rfl
      | some labels =>
          exact keeps_nil_bind fun _ _ => keeps_nil_bind fun _ _ => keeps_of_answer rfl
  | installDefault sources name =>
      refine keeps_bind fun found _ => ?_
      dsimp only [World.installDefault]
      cases session.world.defaultPolicy with
      | none => exact keeps_of_answer rfl
      | some policy => exact fun _ => .refl session
  | getDefault name =>
      rw [ValueStep.run]
      rcases session.world.takeDefault with ⟨_ | _, _⟩ <;> exact keeps_of_answer rfl

theorem PolicyStep.keepsIfRefused
    (step : PolicyStep) :
    session.KeepsIfRefused (step.calls session) (step.run session) := by
  cases step with
  | takeAnchors name kept =>
      refine keeps_bind fun id _ => ?_
      rcases outcome : session.world.trustAnchors id with ⟨raised | snapshot, next⟩
      · obtain rfl : (session.world.trustAnchors id).2 = next := congrArg Prod.snd outcome
        exact keeps_of_allFail fun _ => ⟨⟨raised, congrArg Prod.fst outcome⟩, trivial⟩
      · cases kept <;> exact keeps_of_answer rfl
  | demand name what callers =>
      cases what with
      | anchors =>
          refine keeps_bind fun id _ => keeps_answerAgreement (fun _ => rfl) ?_ ?_
          · exact fun _ failed => exists_error_of_isOk failed
          · exact fun _ => World.isOk_trustAnchors_again
      | manager =>
          refine keeps_bind fun id _ => keeps_answerAgreement (fun _ => rfl) ?_ ?_
          · exact fun _ failed => exists_error_of_isOk failed
          · exact fun _ => World.isOk_trustManager_again
  | takeManager name kept =>
      refine keeps_bind fun id _ => ?_
      rcases outcome : session.world.trustManager id with ⟨raised | manager, next⟩
      · obtain rfl : (session.world.trustManager id).2 = next := congrArg Prod.snd outcome
        exact keeps_of_allFail fun _ => ⟨⟨raised, congrArg Prod.fst outcome⟩, trivial⟩
      · exact keeps_of_answer rfl
  | issuers _ =>
      refine keeps_bind fun manager _ => keeps_of_allFail fun refused => ⟨?_, trivial⟩
      exact exists_error_of_answerOf (fun _ => rfl) refused
  | viewManager _ =>
      refine keeps_bind fun manager _ => keeps_of_allFail fun refused => ⟨?_, trivial⟩
      have failed : (!(session.world.acceptedIssuers manager).1.isOk) = true := refused
      exact exists_error_of_isOk (by simpa using failed)
  | invalidate _ | drop _ | setFactoryFailing _ _ | bindManager _ _ | announce _ =>
      exact keeps_bind fun _ _ => keeps_of_answer rfl
  | makeFactory _ | makeNotifier _ => exact keeps_of_answer rfl
  | view _ | describe _ | viewSnapshot _ | cached _ | factoryStats _ | notifierStats _ =>
      exact keeps_nil_bind fun _ _ => keeps_same
  | sameSnapshot _ _ | same _ _ | sameConfiguration _ _ | sameManager _ _ =>
      exact keeps_nil_bind fun _ _ => keeps_nil_bind fun _ _ => keeps_same
  | registerSource _ _ | registerPolicy _ _ =>
      exact keeps_nil_bind fun _ _ => keeps_nil_bind fun _ _ => keeps_of_answer rfl

end Steps

namespace Session

section Runs

variable {session : Session}

/-- A step that answers with an error leaves the session unchanged. -/
theorem unchanged_step
    {step : Step}
    (refused : (session.step step).1.isError = true) :
    session.Unchanged (session.step step).2 (session.world.queriesAlong (session.calls step))
      (session.world.requestsAlong (session.calls step)) := by
  rw [step_eq_settle] at refused ⊢
  cases step with
  | source step => exact step.keepsIfRefused refused
  | builder step => exact step.keepsIfRefused refused
  | policy step => exact step.keepsIfRefused refused
  | value step => exact step.keepsIfRefused refused
  | events => exact absurd refused (by simp [attempt, settle, Answer.isError])

/-- Steps that all answer with errors leave the session unchanged. -/
theorem unchanged_run
    {steps : List Step}
    (refused : ∀ answer ∈ (session.run steps).1, answer.isError = true) :
    session.Unchanged (session.run steps).2
      (session.world.queriesAlong (session.callsOfRun steps))
      (session.world.requestsAlong (session.callsOfRun steps)) := by
  induction steps generalizing session with
  | nil => exact .refl session
  | cons step rest inductionHypothesis =>
      have first := unchanged_step (refused _ List.mem_cons_self)
      have later := inductionHypothesis fun answer present =>
        refused answer (List.mem_cons_of_mem _ present)
      rw [callsOfRun, World.queriesAlong_append, World.requestsAlong_append, ← world_step]
      exact first.trans later

end Runs

/-- Whatever steps are refused in whatever session, one or many, the session stays as
it was: the names, the builders with their links, the policies with their settings and
cells, the notifiers, and the slot for the default policy. Sources and factories have
noted the queries and the requests that were made of them, and nothing else about them
has changed. A set never calls the function of an update for a builder that it does
not own, so the outcome is the same for all functions. -/
theorem refusals_change_nothing :
    (∀ session : Session, ∀ steps : List Step,
      (∀ answer ∈ (session.run steps).1, answer.isError = true) →
      session.Unchanged (session.run steps).2
        (session.world.queriesAlong (session.callsOfRun steps))
        (session.world.requestsAlong (session.callsOfRun steps))) ∧
    (∀ (ε : Type) (set : BuilderSet) (id : BuilderId) (change : Builder → Except ε Builder),
      ¬set.Owns id → set.update id change = (.error (.unknownBuilder id), set)) :=
  ⟨fun _ _ => unchanged_run, fun _ _ _ _ => BuilderSet.update_of_not_owns⟩

/-- Reads of a failing source, requests to a failing factory, a cyclic link, an update
that is broken off, and one with an identifier of another set. -/
theorem refusals_of_failing_objects :
    let steps : List Step :=
      [.source (.make "source" "store" .counting []), .source (.setFailing "source" true),
        .policy (.makeFactory "factory"), .policy (.setFactoryFailing "factory" true),
        .builder (.make "builder" none [.addRef ⟨"source", false⟩]),
        .builder (.build "builder" "policy" (some "factory")),
        .builder (.makeSet "set"), .builder (.insert "set" "id" (.named "builder")),
        .builder (.makeSet "foreign")]
    let refused : List Step :=
      [.policy (.takeAnchors "policy" none), .policy (.demand "policy" .anchors 3),
        .policy (.takeManager "policy" "manager"),
        .builder (.setParent "set" "id" (some "id")),
        .builder (.update "set" "id" [.setHsts true] true),
        .builder (.update "foreign" "id" [] false), .source (.decode "certificate" [])]
    let session := (initial.run steps).2
    (∀ answer ∈ (session.run refused).1, answer.isError = true) ∧
      (session.run refused).2.sets = session.sets ∧
      (session.run refused).2.world.policies = session.world.policies ∧
      (session.run refused).2.world.sources.get ⟨0⟩ =
        ⟨"store", .counting { certificates := [], failing := true, queries := 4 }⟩ ∧
      (session.run refused).2.world.factories.get ⟨0⟩ =
        { failing := true, requests := 1, bound := [⟨0⟩] } ∧
      (∀ change : Builder → Except Answer Builder,
        (BuilderSet.ofNumber 1).update ⟨0, 0⟩ change =
          (.error (.unknownBuilder ⟨0, 0⟩), BuilderSet.ofNumber 1)) := by
  intro steps refused session
  have errors : ∀ answer ∈ (session.run refused).1, answer.isError = true :=
    List.all_eq_true.1 (by decide +kernel)
  have unchanged := refusals_change_nothing.1 session refused errors
  have queries : (session.world.queriesAlong (session.callsOfRun refused)).count ⟨0⟩ = 4 := by
    decide +kernel
  have requests : World.requestsTo (session.world.requestsAlong (session.callsOfRun refused)) ⟨0⟩ =
      [⟨0⟩] := by
    decide +kernel
  have foreign : ¬(BuilderSet.ofNumber 1).Owns ⟨0, 0⟩ := by decide
  refine ⟨errors, ?_, ?_, ?_, ?_, ?_⟩
  · rw [unchanged.rest]
  · rw [unchanged.world.rest]
  · rw [unchanged.world.sources, queries]
    rfl
  · rw [unchanged.world.factories ⟨0⟩ (by decide), requests]
    rfl
  · exact fun change => refusals_change_nothing.2 _ _ _ change foreign

end Session
end TrustPolicy
