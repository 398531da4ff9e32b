import TrustPolicy.Proofs.Calls
import TrustPolicy.Session.Run

/-!
# Sessions as calls

A step of a session looks names up and then carries out calls on the world of the
session; a step that is refused before that carries out none. So what is known of
calls on worlds is known of sessions, and every world that a session reaches is
reached by calls.
-/

namespace TrustPolicy

namespace Source.Change

/-- A change of memory stores. -/
def memory (change : MemoryStore → MemoryStore) : Source.Change where
  apply source :=
    match source.store with
    | .memory store => { source with store := .memory (change store) }
    | _ => source
  queryCount?_apply := by
    rintro ⟨_, store⟩
    cases store <;> rfl

/-- A change of scripted stores. -/
def scripted (change : ScriptedStore → ScriptedStore) : Source.Change where
  apply source :=
    match source.store with
    | .scripted store => { source with store := .scripted (change store) }
    | _ => source
  queryCount?_apply := by
    rintro ⟨_, store⟩
    cases store <;> rfl

/-- Tell counting stores to fail, or to stop failing. -/
def failing (failing : Bool) : Source.Change where
  apply source :=
    match source.store with
    | .counting store => { source with store := .counting { store with failing } }
    | _ => source
  queryCount?_apply := by
    rintro ⟨_, store⟩
    cases store <;> rfl

/-- Put certificates in place of those that a source has. -/
def replace (certificates : List Certificate) : Source.Change where
  apply source := { source with store := source.store.replace certificates }
  queryCount?_apply := by
    rintro ⟨_, store⟩
    cases store <;> rfl

section Applying

variable {source : Source}

theorem apply_memory
    {change : MemoryStore → MemoryStore}
    {store : MemoryStore}
    (found : source.store = .memory store) :
    (memory change).apply source = { source with store := .memory (change store) } := by
  simp only [memory, found]

theorem apply_memory_of_ne
    {change : MemoryStore → MemoryStore}
    (other : ∀ store, source.store = .memory store → False) :
    (memory change).apply source = source := by
  obtain ⟨label, store⟩ := source
  cases store with
  | memory store => exact (other store rfl).elim
  | counting store => rfl
  | scripted store => rfl

theorem apply_scripted
    {change : ScriptedStore → ScriptedStore}
    {store : ScriptedStore}
    (found : source.store = .scripted store) :
    (scripted change).apply source = { source with store := .scripted (change store) } := by
  simp only [scripted, found]

theorem apply_scripted_of_ne
    {change : ScriptedStore → ScriptedStore}
    (other : ∀ store, source.store = .scripted store → False) :
    (scripted change).apply source = source := by
  obtain ⟨label, store⟩ := source
  cases store with
  | memory store => rfl
  | counting store => rfl
  | scripted store => exact (other store rfl).elim

theorem apply_failing
    {told : Bool}
    {store : CountingStore}
    (found : source.store = .counting store) :
    (failing told).apply source =
      { source with store := .counting { store with failing := told } } := by
  simp only [failing, found]

theorem apply_failing_of_ne
    {told : Bool}
    (other : ∀ store, source.store = .counting store → False) :
    (failing told).apply source = source := by
  obtain ⟨label, store⟩ := source
  cases store with
  | memory store => rfl
  | counting store => exact (other store rfl).elim
  | scripted store => rfl

end Applying

end Source.Change

open World (Call)

namespace Session

/-- The calls on what an attempt yields, or none if it is refused. -/
def callsOn
    (attempt : Except Answer α)
    (calls : α → List Call) : List Call :=
  match attempt with
  | .ok value => calls value
  | .error _ => []

@[simp] theorem callsOn_ok
    {value : α}
    {calls : α → List Call} :
    callsOn (.ok value) calls = calls value := rfl

theorem forall_mem_callsOn
    {attempt : Except Answer α}
    {calls : α → List Call}
    {property : Call → Prop} :
    (∀ call ∈ callsOn attempt calls, property call) ↔
      ∀ value, attempt = .ok value → ∀ call ∈ calls value, property call := by
  cases attempt with
  | ok value => simp
  | error answer => simp [callsOn]

end Session

/-- The calls of a step on certificates or sources. -/
def SourceStep.calls
    (session : Session) : SourceStep → List Call
  | .make _ label kind names =>
      Session.callsOn (Session.lookAll session.certificates names) fun certificates =>
        [.addSource ⟨label, Store.ofKind kind certificates⟩]
  | .view name => Session.callsOn (Session.look session.sources name) fun id => [.querySource id]
  | .add name certificate =>
      Session.callsOn (Session.look session.sources name) fun id =>
        Session.callsOn (Session.look session.certificates certificate) fun certificate =>
          [.changeSource id (.memory fun store => (store.add certificate).1)]
  | .remove name certificate =>
      Session.callsOn (Session.look session.sources name) fun id =>
        Session.callsOn (Session.look session.certificates certificate) fun certificate =>
          [.changeSource id (.memory fun store => (store.remove certificate).1)]
  | .replace name names =>
      Session.callsOn (Session.look session.sources name) fun id =>
        Session.callsOn (Session.lookAll session.certificates names) fun certificates =>
          [.changeSource id (.replace certificates)]
  | .setFailing name failing =>
      Session.callsOn (Session.look session.sources name) fun id =>
        [.changeSource id (.failing failing)]
  | .setFailure name failure =>
      Session.callsOn (Session.look session.sources name) fun id =>
        [.changeSource id (.scripted fun store => { store with failure := failure })]
  | .watch name policy =>
      Session.callsOn (Session.look session.sources name) fun id =>
        Session.callsOn (session.policy policy) fun policy =>
          [.changeSource id (.scripted fun store =>
            { store with watched := store.watched ++ [policy] })]
  | .queryRef form =>
      Session.callsOn (session.resolveRef form) fun entry => [.querySource entry.source]
  | .decode _ _ | .compare _ _ | .countDistinct _ | .stats _ | .compareRefs _ _ => []

/-- The calls of a step on builders or builder sets. -/
def BuilderStep.calls
    (session : Session) : BuilderStep → List Call
  | .build name policy factory =>
      Session.callsOn (Session.look session.builders name) fun builder =>
        Session.callsOn (Session.look? session.factories factory) fun factory =>
          [.buildChain policy [builder] factory]
  | .buildIn name id policy factory =>
      Session.callsOn (Session.look session.sets name) fun set =>
        Session.callsOn (Session.look session.ids id) fun id =>
          Session.callsOn (Session.look? session.factories factory) fun factory =>
            Session.callsOn (Session.accepted (set.chain id)) fun chain =>
              [.buildChain policy chain.builders factory]
  | .make _ _ _ | .view _ | .makeSet _ | .setSize _ | .insert _ _ _ | .update _ _ _ _ | .get _ _
  | .effective _ _ | .setParent _ _ _ | .parentOf _ _ => []

/-- The calls of a step on policies, trust managers, or notifiers. -/
def PolicyStep.calls
    (session : Session) : PolicyStep → List Call
  | .takeAnchors name _ => Session.callsOn (session.policy name) fun id => [.trustAnchors id]
  | .invalidate name => Session.callsOn (session.policy name) fun id => [.invalidateAnchors id]
  | .drop name => Session.callsOn (session.policy name) fun _ => [.disown name]
  | .demand name .anchors callers =>
      Session.callsOn (session.policy name) fun id => List.replicate callers (.trustAnchors id)
  | .demand name .manager callers =>
      Session.callsOn (session.policy name) fun id => List.replicate callers (.trustManager id)
  | .makeFactory _ => [.addFactory]
  | .setFactoryFailing name failing =>
      Session.callsOn (Session.look session.factories name) fun id => [.setFailing id failing]
  | .takeManager name _ => Session.callsOn (session.policy name) fun id => [.trustManager id]
  | .issuers name =>
      Session.callsOn (Session.look session.managers name) fun manager =>
        [.acceptedIssuers manager]
  | .bindManager name _ => Session.callsOn (session.policy name) fun id => [.bindManager id]
  | .viewManager name =>
      Session.callsOn (Session.look session.directManagers name) fun manager =>
        [.acceptedIssuers manager]
  | .announce name =>
      Session.callsOn (Session.look session.notifiers name) fun notifier => [.announce notifier]
  | .view _ | .describe _ | .viewSnapshot _ | .sameSnapshot _ _ | .cached _ | .same _ _
  | .sameConfiguration _ _ | .factoryStats _ | .sameManager _ _ | .makeNotifier _
  | .registerSource _ _ | .registerPolicy _ _ | .notifierStats _ => []

/-- The calls of a step on cells, anchor sets, or the default policy. -/
def ValueStep.calls
    (session : Session) : ValueStep → List Call
  | .makeDefaultSources _ none =>
      [.addSource ⟨"system", .memory .empty⟩, .addSource ⟨"user", .memory .empty⟩]
  | .installDefault sources name =>
      Session.callsOn (Session.look session.defaultSources sources) fun sources =>
        [.installDefault name sources]
  | .getDefault name => [.ownDefault name]
  | .makeDefaultSources _ (some _) | .makeCell _ | .viewCell _ | .invalidateCell _
  | .initializeCell _ _ | .makeAnchorSet _ _ | .insertAnchor _ _ | .extendAnchorSet _ _
  | .findAnchor _ _ | .viewAnchorSet _ | .compareAnchorSets _ _ | .defaultBuilder _ _ => []

namespace Session

/-- The calls of a step. -/
def calls (session : Session) : Step → List Call
  | .source step => step.calls session
  | .builder step => step.calls session
  | .policy step => step.calls session
  | .value step => step.calls session
  | .events => [.forgetEvents]

/-- The calls of steps in order. -/
def callsOfRun (session : Session) : List Step → List Call
  | [] => []
  | step :: rest => session.calls step ++ (session.step step).2.callsOfRun rest

/-- The answer to an attempt, and the session after it. -/
def settle
    (session : Session) : Except Answer (Answer × Session) → Answer × Session
  | .ok outcome => outcome
  | .error answer => (answer, session)

section Settling

variable
  {session : Session}
  {attempt : Except Answer α}
  {calls : α → List Call}
  {rest : α → Except Answer (Answer × Session)}

theorem step_eq_settle
    (step : Step) :
    session.step step = session.settle (session.attempt step) := by
  rw [Session.step]
  cases session.attempt step <;> rfl

section Looking

variable
  {table : Bindings β}
  {name : String}
  {value : β}
  {use : β → Except Answer (Answer × Session)}

theorem look_eq_ok_iff : look table name = .ok value ↔ table.find? name = some value := by
  rw [look]
  cases table.find? name <;> simp

/-- An attempt goes on with what a name is bound to. -/
theorem settle_look_of_some
    (bound : table.find? name = some value) :
    session.settle (look table name >>= use) = session.settle (use value) := by
  rw [look, bound]
  rfl

/-- An attempt ends at an unbound name. -/
theorem settle_look_of_none
    (unbound : table.find? name = none) :
    session.settle (look table name >>= use) = (.unbound name, session) := by
  rw [look, unbound]
  rfl

end Looking

/-- Whether an attempt leads to the world after calls. -/
def Performs
    (session : Session)
    (calls : List Call)
    (attempt : Except Answer (Answer × Session)) : Prop :=
  (session.settle attempt).2.world = session.world.performAll calls

theorem performs_bind
    (performs : ∀ value, attempt = .ok value → session.Performs (calls value) (rest value)) :
    session.Performs (callsOn attempt calls) (attempt >>= rest) := by
  cases attempt with
  | ok value => exact performs value rfl
  | error answer => rfl

theorem performs_nil_bind
    (performs : ∀ value, session.Performs [] (rest value)) :
    session.Performs [] (attempt >>= rest) := by
  cases attempt with
  | ok value => exact performs value
  | error answer => rfl

/-- A source whose store is set has undergone any change that leads to that store. -/
theorem performs_withStore
    {source : SourceId}
    {store : Store}
    {answer : Answer}
    {change : Source.Change}
    (same : change.apply (session.world.sources.get source) =
      { session.world.sources.get source with store := store }) :
    session.Performs [.changeSource source change]
      (.ok (answer, session.withStore source store)) := by
  have changed : session.world.sources.modify source (fun current =>
      { current with store := store }) = session.world.sources.modify source change.apply :=
    (Arena.modify_congr same).symm
  exact congrArg (fun sources : Arena .source Source =>
    ({ session.world with sources := sources } : World)) changed

/-- A refusal to change a source is a change that does nothing. -/
theorem performs_refusal
    {source : SourceId}
    {answer : Answer}
    {change : Source.Change}
    (unchanged : change.apply (session.world.sources.get source) =
      session.world.sources.get source) :
    session.Performs [.changeSource source change] (.error answer) := by
  have same : session.world.sources.modify source change.apply = session.world.sources :=
    Arena.modify_eq_self unchanged
  exact congrArg (fun sources : Arena .source Source =>
    ({ session.world with sources := sources } : World)) same.symm

end Settling

/-- Callers that ask one after another carry out a call each. -/
theorem askRepeatedly_snd
    {ask : World → Except PolicyError α × World}
    {call : Call}
    (asks : ∀ world, (ask world).2 = World.perform world call)
    (callers : Nat)
    (world : World) :
    (askRepeatedly ask callers world).2 = world.performAll (List.replicate callers call) := by
  induction callers generalizing world with
  | zero => rfl
  | succ callers inductionHypothesis =>
      rw [askRepeatedly, inductionHypothesis, asks]
      rfl

end Session

/-! ## The kinds of steps -/

section Steps

open Session

variable {session : Session}

theorem SourceStep.performs
    (step : SourceStep) :
    session.Performs (step.calls session) (step.run session) := by
  cases step with
  | decode name der =>
      rw [SourceStep.run, SourceStep.calls]
      split <;> rfl
  | compare first second => exact performs_nil_bind fun _ => performs_nil_bind fun _ => rfl
  | countDistinct forms => exact performs_nil_bind fun _ => rfl
  | make name label kind names => exact performs_bind fun _ _ => rfl
  | view name => exact performs_bind fun _ _ => rfl
  | add name certificate | remove name certificate =>
      refine performs_bind fun id _ => performs_bind fun certificate _ => ?_
      split
      case h_1 found => exact performs_withStore (Source.Change.apply_memory found)
      case h_2 other => exact performs_refusal (Source.Change.apply_memory_of_ne other)
  | replace name names =>
      exact performs_bind fun id _ => performs_bind fun certificates _ => performs_withStore rfl
  | setFailing name failing =>
      refine performs_bind fun id _ => ?_
      split
      case h_1 found => exact performs_withStore (Source.Change.apply_failing found)
      case h_2 other => exact performs_refusal (Source.Change.apply_failing_of_ne other)
  | setFailure name failure =>
      refine performs_bind fun id _ => ?_
      split
      case h_1 found => exact performs_withStore (Source.Change.apply_scripted found)
      case h_2 other => exact performs_refusal (Source.Change.apply_scripted_of_ne other)
  | stats name =>
      refine performs_nil_bind fun id => ?_
      split <;> rfl
  | watch name policy =>
      refine performs_bind fun id _ => performs_bind fun policy _ => ?_
      split
      case h_1 found => exact performs_withStore (Source.Change.apply_scripted found)
      case h_2 other => exact performs_refusal (Source.Change.apply_scripted_of_ne other)
  | queryRef form =>
      refine performs_bind fun entry _ => ?_
      dsimp only [Session.Performs, World.performAll, List.foldl, World.perform, World.queryRef,
        World.querySource]
      cases (session.world.sources.get entry.source).certificates <;> rfl
  | compareRefs first second => exact performs_nil_bind fun _ => performs_nil_bind fun _ => rfl

theorem BuilderStep.performs
    (step : BuilderStep) :
    session.Performs (step.calls session) (step.run session) := by
  cases step with
  | make name start calls => exact performs_nil_bind fun _ => performs_nil_bind fun _ => rfl
  | view _ | setSize _ => exact performs_nil_bind fun _ => rfl
  | build name policy factory => exact performs_bind fun _ _ => performs_bind fun _ _ => rfl
  | makeSet name => rfl
  | insert name id form => exact performs_nil_bind fun _ => performs_nil_bind fun _ => rfl
  | update name id calls breaksOff =>
      refine performs_nil_bind fun set => performs_nil_bind fun id => ?_
      dsimp only
      split <;> rfl
  | get name id =>
      exact performs_nil_bind fun _ => performs_nil_bind fun _ => performs_nil_bind fun _ => rfl
  | effective name id => exact performs_nil_bind fun _ => performs_nil_bind fun _ => rfl
  | setParent name child parent =>
      refine performs_nil_bind fun set => performs_nil_bind fun child =>
        performs_nil_bind fun parent => ?_
      dsimp only
      split <;> rfl
  | parentOf name id =>
      refine performs_nil_bind fun set => performs_nil_bind fun id =>
        performs_nil_bind fun parent => ?_
      cases parent <;> rfl
  | buildIn name id policy factory =>
      refine performs_bind fun set _ => performs_bind fun id _ => performs_bind fun factory _ => ?_
      dsimp only [World.buildIn]
      cases set.chain id <;> rfl

theorem PolicyStep.performs
    (step : PolicyStep) :
    session.Performs (step.calls session) (step.run session) := by
  cases step with
  | takeAnchors name kept =>
      refine performs_bind fun id _ => ?_
      dsimp only [Session.Performs, World.performAll, List.foldl, World.perform]
      generalize session.world.trustAnchors id = outcome
      obtain ⟨_ | _, _⟩ := outcome <;> cases kept <;> rfl
  | demand name what callers =>
      cases what with
      | anchors => exact performs_bind fun id _ => askRepeatedly_snd (fun _ => rfl) callers _
      | manager => exact performs_bind fun id _ => askRepeatedly_snd (fun _ => rfl) callers _
  | takeManager name kept =>
      refine performs_bind fun id _ => ?_
      dsimp only [Session.Performs, World.performAll, List.foldl, World.perform]
      generalize session.world.trustManager id = outcome
      obtain ⟨_ | _, _⟩ := outcome <;> rfl
  | issuers _ | viewManager _ => exact performs_bind fun _ _ => rfl
  | invalidate _ | drop _ | setFactoryFailing _ _ | bindManager _ _ | announce _ =>
      exact performs_bind fun _ _ => rfl
  | makeFactory _ | makeNotifier _ => rfl
  | view _ | describe _ | viewSnapshot _ | cached _ | factoryStats _ | notifierStats _ =>
      exact performs_nil_bind fun _ => rfl
  | sameSnapshot _ _ | same _ _ | sameConfiguration _ _ | sameManager _ _ | registerSource _ _
  | registerPolicy _ _ =>
      exact performs_nil_bind fun _ => performs_nil_bind fun _ => rfl

theorem ValueStep.performs
    (step : ValueStep) :
    session.Performs (step.calls session) (step.run session) := by
  cases step with
  | makeDefaultSources name given =>
      cases given with
      | none => rfl
      | some labels => exact performs_nil_bind fun _ => performs_nil_bind fun _ => rfl
  | installDefault sources name =>
      refine performs_bind fun found _ => ?_
      dsimp only [Session.Performs, World.performAll, List.foldl, World.perform]
      generalize session.world.installDefault found = outcome
      obtain ⟨_ | _, _⟩ := outcome <;> rfl
  | getDefault name =>
      dsimp only [Session.Performs, World.performAll, List.foldl, World.perform, ValueStep.run,
        ValueStep.calls]
      rcases session.world.takeDefault with ⟨_ | _, _⟩ <;> rfl
  | makeCell name => rfl
  | makeAnchorSet name forms => exact performs_nil_bind fun _ => rfl
  | initializeCell name outcome =>
      refine performs_nil_bind fun cell => ?_
      cases outcome <;> obtain ⟨_ | _⟩ := cell <;> rfl
  | insertAnchor _ _ | extendAnchorSet _ _ | findAnchor _ _ | compareAnchorSets _ _ =>
      exact performs_nil_bind fun _ => performs_nil_bind fun _ => rfl
  | viewCell _ | invalidateCell _ | viewAnchorSet _ | defaultBuilder _ _ =>
      exact performs_nil_bind fun _ => rfl

end Steps

namespace Session

/-! ## Steps and runs -/

section Runs

variable {session : Session}

/-- A step leads to the world after its calls. -/
theorem world_step
    (step : Step) :
    (session.step step).2.world = session.world.performAll (session.calls step) := by
  rw [step_eq_settle]
  cases step with
  | source step => exact step.performs
  | builder step => exact step.performs
  | policy step => exact step.performs
  | value step => exact step.performs
  | events => rfl

/-- What each step keeps is kept by a run. -/
theorem run_induction
    {motive : Session → Prop}
    {steps : List Step}
    (initially : motive session)
    (kept : ∀ before step, step ∈ steps → motive before → motive (before.step step).2) :
    motive (session.run steps).2 := by
  induction steps generalizing session with
  | nil => exact initially
  | cons step rest inductionHypothesis =>
      apply inductionHypothesis
      · exact kept session step List.mem_cons_self initially
      · intro before later present
        exact kept before later (List.mem_cons_of_mem _ present)

/-- A run leads to the world after the calls of its steps. -/
theorem world_run
    (steps : List Step) :
    (session.run steps).2.world = session.world.performAll (session.callsOfRun steps) := by
  induction steps generalizing session with
  | nil => rfl
  | cons step rest inductionHypothesis =>
      have first : (session.calls step).foldl World.perform session.world =
          (session.step step).2.world := (world_step step).symm
      have later : (session.run (step :: rest)).2 = ((session.step step).2.run rest).2 := rfl
      rw [later, inductionHypothesis, callsOfRun, World.performAll, World.performAll,
        List.foldl_append, first]

end Runs

end Session
end TrustPolicy
