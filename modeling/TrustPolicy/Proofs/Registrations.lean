import TrustPolicy.Proofs.Confinement
import TrustPolicy.Proofs.Liveness

/-!
# Registrations

A notifier that has had any registrations holds each registered source once, in
the order of first registration, and of the registered policies that are alive
each one once, in that order as well. Dead policies never come back, so nothing
is lost when their entries are dropped.
-/

namespace TrustPolicy

/-- All that was registered with a notifier since it was made, in order, with
repetitions. -/
structure Registrations where
  sources : List SourceId
  policies : List PolicyId

namespace Registrations

/-- The registrations of a new notifier. -/
def none : Registrations := ⟨[], []⟩

/-- The registrations with the notifier of a name after a step of a session. -/
def after
    (record : Registrations)
    (session : Session)
    (name : String) : Step → Registrations
  | .policy (.makeNotifier made) => if made = name then none else record
  | .policy (.registerSource notifier source) =>
      if notifier = name then
        { record with sources := record.sources ++ (session.sources.find? source).toList }
      else record
  | .policy (.registerPolicy notifier policy) =>
      if notifier = name then
        { record with
          policies := record.policies ++ (session.world.owners.find? policy).toList }
      else record
  | _ => record

/-- The registrations with the notifier of a name after steps of a session. -/
def afterAll
    (record : Registrations)
    (session : Session)
    (name : String) : List Step → Registrations
  | [] => record
  | step :: rest =>
      (record.after session name step).afterAll (session.step step).2 name rest

end Registrations

/-- A list with one more element keeps it if it is a new one. -/
theorem eraseDups_concat [DecidableEq α]
    (list : List α)
    (value : α) :
    (list ++ [value]).eraseDups =
      if value ∈ list then list.eraseDups else list.eraseDups ++ [value] := by
  rw [List.eraseDups_append]
  by_cases present : value ∈ list
  · simp [List.removeAll, present]
  · simp [List.removeAll, present, List.eraseDups_cons]

/-! ## One registration -/

namespace Notifier

section Registering

variable
  {notifier : Notifier}
  {world : World}
  {source : SourceId}
  {policy : PolicyId}
  {record : Registrations}

/-- Whether a notifier holds what was registered with it. -/
structure Holds
    (notifier : Notifier)
    (world : World)
    (record : Registrations) : Prop where
  sources : notifier.sources = record.sources.eraseDups
  distinct : notifier.sources.Nodup
  policies : notifier.policies.filter world.isAlive =
    record.policies.eraseDups.filter world.isAlive
  registered : ∀ policy ∈ notifier.policies, policy ∈ record.policies
  /-- Only policies that were built were registered. -/
  built : ∀ policy ∈ record.policies, world.policies.Holds policy

theorem holds_empty : Notifier.empty.Holds world .none where
  sources := rfl
  distinct := List.nodup_nil
  policies := rfl
  registered := by simp [Notifier.empty]
  built := by simp [Registrations.none]

/-- A source that is registered is put at the end unless it is there. -/
theorem Holds.registerSource
    (holds : notifier.Holds world record) :
    (notifier.registerSource source).Holds world
      { record with sources := record.sources ++ [source] } := by
  have present : source ∈ notifier.sources ↔ source ∈ record.sources := by
    rw [holds.sources, List.mem_eraseDups]
  rw [Notifier.registerSource]
  split
  case isTrue known =>
    refine { holds with sources := ?_ }
    rw [eraseDups_concat, if_pos (present.1 known), holds.sources]
  case isFalse unknown =>
    refine { holds with sources := ?_, distinct := ?_ }
    · rw [eraseDups_concat, if_neg (mt present.2 unknown), holds.sources]
    · refine List.nodup_append.2 ⟨holds.distinct, by simp, ?_⟩
      rintro other known new present rfl
      exact unknown (List.mem_singleton.1 present ▸ known)

/-- Nothing is lost if entries of dead policies are dropped. -/
theorem Holds.prune
    (holds : notifier.Holds world record) :
    (notifier.prune world).Holds world record where
  sources := holds.sources
  distinct := holds.distinct
  policies := by
    rw [Notifier.prune, List.filter_filter]
    simpa using holds.policies
  registered policy present := holds.registered policy (List.mem_filter.1 present).1
  built := holds.built

/-- A living policy that is registered is put at the end unless it is there. -/
theorem Holds.registerPolicy
    (holds : notifier.Holds world record)
    (alive : world.isAlive policy = true)
    (held : world.policies.Holds policy) :
    (notifier.registerPolicy world policy).Holds world
      { record with policies := record.policies ++ [policy] } := by
  have pruned := holds.prune
  have present : policy ∈ (notifier.prune world).policies ↔ policy ∈ record.policies := by
    refine ⟨pruned.registered policy, fun known => ?_⟩
    have living : policy ∈ record.policies.eraseDups.filter world.isAlive :=
      List.mem_filter.2 ⟨List.mem_eraseDups.2 known, alive⟩
    rw [← holds.policies] at living
    exact living
  have registered : ∀ other ∈ (notifier.prune world).policies,
      other ∈ record.policies ++ [policy] :=
    fun other entry => List.mem_append_left _ (pruned.registered other entry)
  have built : ∀ other ∈ record.policies ++ [policy], world.policies.Holds other := by
    intro other known
    rcases List.mem_append.1 known with before | new
    · exact holds.built other before
    · exact List.mem_singleton.1 new ▸ held
  rw [Notifier.registerPolicy]
  split
  case isTrue known =>
    refine { pruned with policies := ?_, registered := registered, built := built }
    rw [eraseDups_concat, if_pos (present.1 known), pruned.policies]
  case isFalse unknown =>
    refine { pruned with policies := ?_, registered := ?_, built := built }
    · rw [eraseDups_concat, if_neg (mt present.2 unknown), List.filter_append,
        List.filter_append, pruned.policies]
    · intro other entry
      rcases List.mem_append.1 entry with before | new
      · exact registered other before
      · exact List.mem_append_right _ new

/-- Nothing is lost if policies die and others are built. -/
theorem Holds.performAll
    {calls : List World.Call}
    (counted : world.IsCounted [])
    (holds : notifier.Holds world record) :
    notifier.Holds (world.performAll calls) record := by
  have dies {policies : List PolicyId}
      (built : ∀ policy ∈ policies, world.policies.Holds policy) :
      policies.filter (world.performAll calls).isAlive =
        (policies.filter world.isAlive).filter (world.performAll calls).isAlive := by
    rw [List.filter_filter]
    refine List.filter_congr fun policy present => ?_
    cases alive : (world.performAll calls).isAlive policy with
    | false => rfl
    | true => rw [World.isAlive_of_isAlive_performAll counted (built policy present) alive]; rfl
  refine { holds with policies := ?_, built := ?_ }
  · rw [dies fun policy present => holds.built policy (holds.registered policy present),
      dies fun policy present => holds.built policy (List.mem_eraseDups.1 present),
      holds.policies]
  · exact fun policy known => World.holds_performAll (holds.built policy known)

/-- What a step that does not make a notifier anew makes of it, and of what was
registered with it. -/
inductive Becomes
    (world : World)
    (notifier : Notifier)
    (record : Registrations) : Notifier → Registrations → Prop
  | same : Becomes world notifier record notifier record
  | source
      (source : SourceId) :
      Becomes world notifier record (notifier.registerSource source)
        { record with sources := record.sources ++ [source] }
  | policy
      {owner : String}
      {policy : PolicyId}
      (owned : world.owners.find? owner = some policy) :
      Becomes world notifier record (notifier.registerPolicy world policy)
        { record with policies := record.policies ++ [policy] }
  | pruned : Becomes world notifier record (notifier.prune world) record

/-- A notifier holds what was registered with it, whatever becomes of it. -/
theorem Holds.becomes
    {next : Notifier}
    {after : Registrations}
    (holds : notifier.Holds world record)
    (counted : world.IsCounted [])
    (becomes : notifier.Becomes world record next after) :
    next.Holds world after := by
  cases becomes with
  | same => exact holds
  | source source => exact holds.registerSource
  | policy owned =>
      have alive := counted.isAlive_of_find? owned
      exact holds.registerPolicy alive (counted.holds alive)
  | pruned => exact holds.prune

end Registering

end Notifier

/-! ## Steps that leave a notifier alone -/

/-- The name of the notifier that a step makes, changes, or uses for an announcement. -/
def Step.notifier? : Step → Option String
  | .policy (.makeNotifier name) => some name
  | .policy (.registerSource name _) => some name
  | .policy (.registerPolicy name _) => some name
  | .policy (.announce name) => some name
  | _ => none

namespace Session

section Notifiers

variable
  {session : Session}
  {name : String}
  {record : Registrations}

/-- Whether an attempt leaves the notifier of a name as it is. -/
def LeavesNotifier
    (session : Session)
    (name : String)
    (attempt : Except Answer (Answer × Session)) : Prop :=
  (session.settle attempt).2.notifiers.find? name = session.notifiers.find? name

theorem leavesNotifier_bind
    {attempt : Except Answer α}
    {rest : α → Except Answer (Answer × Session)}
    (leaves : ∀ value, session.LeavesNotifier name (rest value)) :
    session.LeavesNotifier name (attempt >>= rest) := by
  cases attempt with
  | ok value => exact leaves value
  | error answer => rfl

end Notifiers

end Session

section Leaving

open Session

variable
  {session : Session}
  {name : String}

theorem PolicyStep.leavesNotifier
    (step : PolicyStep)
    (other : (Step.policy step).notifier? ≠ some name) :
    session.LeavesNotifier name (step.run session) := by
  have different {made : String}
      (unlike : some made ≠ some name) : name ≠ made := fun same => unlike (same ▸ rfl)
  cases step with
  | makeFactory _ => rfl
  | makeNotifier _ => exact Bindings.find?_assign_of_ne (different other)
  | registerSource _ _ | registerPolicy _ _ =>
      exact leavesNotifier_bind fun _ => leavesNotifier_bind fun _ =>
        Bindings.find?_assign_of_ne (different other)
  | announce _ =>
      exact leavesNotifier_bind fun _ => Bindings.find?_assign_of_ne (different other)
  | takeAnchors _ _ | takeManager _ _ =>
      refine leavesNotifier_bind fun _ => ?_
      dsimp only
      split <;> rfl
  | demand _ _ _ =>
      refine leavesNotifier_bind fun _ => ?_
      split <;> rfl
  | view _ | describe _ | viewSnapshot _ | cached _ | invalidate _ | drop _ | factoryStats _
  | setFactoryFailing _ _ | issuers _ | bindManager _ _ | viewManager _ | notifierStats _ =>
      exact leavesNotifier_bind fun _ => rfl
  | sameSnapshot _ _ | same _ _ | sameConfiguration _ _ | sameManager _ _ =>
      exact leavesNotifier_bind fun _ => leavesNotifier_bind fun _ => rfl

end Leaving

namespace Session

section Tracking

variable
  {session : Session}
  {name : String}
  {record : Registrations}

/-- Only steps that name a notifier change it. -/
theorem find?_notifiers_step
    {step : Step}
    (other : step.notifier? ≠ some name) :
    (session.step step).2.notifiers.find? name = session.notifiers.find? name := by
  cases step with
  | policy on =>
      rw [step_eq_settle]
      exact on.leavesNotifier other
  | _ => rw [(leavesPolicyObjects_step (by simp)).notifiers]

/-- Only registrations with a notifier add to what was registered with it. -/
theorem after_of_ne
    {step : Step}
    (other : step.notifier? ≠ some name) :
    record.after session name step = record := by
  cases step with
  | policy step =>
      cases step with
      | makeNotifier made | registerSource made _ | registerPolicy made _ =>
          exact if_neg fun same => other (congrArg some same)
      | _ => rfl
  | _ => rfl

/-- A step that looks a notifier up leaves nothing to show if there is none. -/
theorem becomes_settle_look
    {use : Notifier → Except Answer (Answer × Session)}
    {after : Registrations}
    (goesOn : ∀ current, session.notifiers.find? name = some current →
      ∃ next, (session.settle (use current)).2.notifiers.find? name = some next ∧
        current.Becomes session.world record next after) :
    Option.Rel (fun current next => current.Becomes session.world record next after)
      (session.notifiers.find? name)
      ((session.settle (look session.notifiers name >>= use)).2.notifiers.find? name) := by
  cases bound : session.notifiers.find? name with
  | none =>
      rw [settle_look_of_none bound, bound]
      exact .none
  | some current =>
      obtain ⟨next, found, becomes⟩ := goesOn current bound
      rw [settle_look_of_some bound, found]
      exact .some becomes

/-- What a step makes of the notifier of a name, unless it makes it anew. -/
theorem becomes_step
    {step : Step}
    (record : Registrations)
    (unmade : step ≠ .policy (.makeNotifier name)) :
    Option.Rel
      (fun current next =>
        current.Becomes session.world record next (record.after session name step))
      (session.notifiers.find? name) ((session.step step).2.notifiers.find? name) := by
  by_cases named : step.notifier? = some name
  case neg =>
    rw [find?_notifiers_step named, after_of_ne named]
    cases session.notifiers.find? name with
    | none => exact .none
    | some current => exact .some .same
  rw [step_eq_settle]
  cases step with
  | policy step =>
      cases step with
      | makeNotifier made =>
          obtain rfl : made = name := Option.some_inj.1 named
          exact absurd rfl unmade
      | registerSource notifier source =>
          obtain rfl : notifier = name := Option.some_inj.1 named
          rw [Registrations.after, if_pos rfl]
          refine becomes_settle_look fun current bound => ?_
          cases given : session.sources.find? source with
          | none =>
              rw [settle_look_of_none given, Option.toList_none, List.append_nil]
              exact ⟨current, bound, .same⟩
          | some id =>
              rw [settle_look_of_some given]
              exact ⟨_, Bindings.find?_assign_self, .source id⟩
      | registerPolicy notifier policy =>
          obtain rfl : notifier = name := Option.some_inj.1 named
          rw [Registrations.after, if_pos rfl]
          refine becomes_settle_look fun current bound => ?_
          cases given : session.world.owners.find? policy with
          | none =>
              rw [Session.policy, settle_look_of_none given, Option.toList_none, List.append_nil]
              exact ⟨current, bound, .same⟩
          | some id =>
              rw [Session.policy, settle_look_of_some given]
              exact ⟨_, Bindings.find?_assign_self, .policy given⟩
      | announce notifier =>
          obtain rfl : notifier = name := Option.some_inj.1 named
          refine becomes_settle_look fun current bound => ?_
          refine ⟨(session.world.announce current).2.1, Bindings.find?_assign_self, ?_⟩
          rw [World.announce_snd_fst]
          exact .pruned
      | _ => exact absurd named (by simp [Step.notifier?])
  | _ => exact absurd named (by simp [Step.notifier?])

/-- A notifier that is there after a step was made by it, or by an earlier one. -/
theorem find?_notifiers_step_cases
    {step : Step}
    {next : Notifier}
    (record : Registrations)
    (found : (session.step step).2.notifiers.find? name = some next) :
    (next = Notifier.empty ∧ record.after session name step = .none) ∨
      ∃ current, session.notifiers.find? name = some current ∧
        current.Becomes session.world record next (record.after session name step) := by
  by_cases made : step = .policy (.makeNotifier name)
  · subst made
    rw [step_eq_settle] at found
    have empty : Notifier.empty = next :=
      Option.some_inj.1 (Bindings.find?_assign_self.symm.trans found)
    exact .inl ⟨empty.symm, if_pos rfl⟩
  · have becomes : Option.Rel
        (fun current next =>
          current.Becomes session.world record next (record.after session name step))
        (session.notifiers.find? name) (some next) := found ▸ becomes_step record made
    cases bound : session.notifiers.find? name with
    | none =>
        rw [bound] at becomes
        cases becomes
    | some current =>
        rw [bound] at becomes
        cases becomes with
        | some becomes => exact .inr ⟨current, rfl, becomes⟩

/-- Whether the notifier of a name, if there is one, holds registrations. -/
def NotifierHolds
    (session : Session)
    (name : String)
    (record : Registrations) : Prop :=
  ∀ notifier, session.notifiers.find? name = some notifier →
    notifier.Holds session.world record

/-- Whether the notifier of a name holds registrations, in a session in which names and the
slot for the default policy alone keep policies alive. -/
structure Tracks
    (session : Session)
    (name : String)
    (record : Registrations) : Prop where
  counted : session.world.IsCounted []
  holds : session.NotifierHolds name record

theorem tracks_initial : initial.Tracks name .none where
  counted := World.isCounted_initial
  holds _ found := by simp [initial] at found

/-- The notifier of a name holds what was registered with it after each step. -/
theorem Tracks.step
    (tracks : session.Tracks name record)
    (step : Step) :
    (session.step step).2.Tracks name (record.after session name step) := by
  constructor
  · rw [world_step]
    exact tracks.counted.performAll
  · intro next found
    rw [world_step]
    rcases find?_notifiers_step_cases record found with ⟨rfl, fresh⟩ | ⟨current, bound, becomes⟩
    · rw [fresh]
      exact Notifier.holds_empty
    · exact ((tracks.holds current bound).becomes tracks.counted becomes).performAll tracks.counted

/-- The notifier of a name holds what was registered with it after a run. -/
theorem Tracks.run
    (tracks : session.Tracks name record)
    (steps : List Step) :
    (session.run steps).2.Tracks name (record.afterAll session name steps) := by
  induction steps generalizing session record with
  | nil => exact tracks
  | cons step rest inductionHypothesis => exact inductionHypothesis (tracks.step step)

end Tracking

end Session
end TrustPolicy
