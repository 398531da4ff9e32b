import TrustPolicy.Proofs.Notification

/-!
# The registry of a notifier

Whatever steps are taken, a notifier has each policy in its list at most once, and
those that were registered and are alive in the order of first registration. Dead
entries stay at most until the next registration or announcement. The list of
sources only grows.
-/

namespace TrustPolicy

namespace Notifier

section Becoming

variable
  {notifier next : Notifier}
  {world : World}
  {record after : Registrations}
  {policy : PolicyId}

/-! ## Entries of policies -/

theorem nodup_prune
    (distinct : notifier.policies.Nodup) :
    (notifier.prune world).policies.Nodup :=
  distinct.filter _

/-- A policy is put into the list only if it is not there. -/
theorem nodup_registerPolicy
    (distinct : notifier.policies.Nodup) :
    (notifier.registerPolicy world policy).policies.Nodup := by
  have pruned : (notifier.prune world).policies.Nodup := nodup_prune distinct
  rw [Notifier.registerPolicy]
  split
  case isTrue => exact pruned
  case isFalse unknown =>
    refine List.nodup_append.2 ⟨pruned, by simp, ?_⟩
    rintro other present new isNew rfl
    exact unknown (List.mem_singleton.1 isNew ▸ present)

/-- All entries are alive after the registration of a living policy. -/
theorem filter_registerPolicy
    (alive : world.isAlive policy = true) :
    (notifier.registerPolicy world policy).policies.filter world.isAlive =
      (notifier.registerPolicy world policy).policies := by
  have pruned : ∀ entry ∈ (notifier.prune world).policies, world.isAlive entry = true :=
    fun entry present => (List.mem_filter.1 present).2
  apply List.filter_eq_self.2
  intro entry present
  rw [registerPolicy] at present
  split at present
  case isTrue => exact pruned entry present
  case isFalse =>
    rcases List.mem_append.1 present with before | new
    · exact pruned entry before
    · exact List.mem_singleton.1 new ▸ alive

theorem mem_registerPolicy : policy ∈ (notifier.registerPolicy world policy).policies := by
  rw [registerPolicy]
  split
  case isTrue known => exact known
  case isFalse => exact List.mem_append_right _ (List.mem_singleton.2 rfl)

/-- Once a living policy is registered, the entries are those of all living policies that
were ever registered. -/
theorem Holds.policies_registerPolicy
    (holds : notifier.Holds world record)
    (alive : world.isAlive policy = true)
    (held : world.policies.Holds policy) :
    (notifier.registerPolicy world policy).policies =
      ({ record with policies := record.policies ++ [policy] } : Registrations).living world := by
  rw [← filter_registerPolicy alive]
  exact (holds.registerPolicy alive held).policies

theorem livePolicies_le_registeredPolicies :
    notifier.livePolicies world ≤ notifier.registeredPolicies :=
  List.length_filter_le _ _

/-! ## What becomes of a notifier -/

theorem Becomes.nodup
    (becomes : notifier.Becomes world record next after)
    (distinct : notifier.policies.Nodup) :
    next.policies.Nodup := by
  cases becomes with
  | same => exact distinct
  | source source =>
      rw [registerSource]
      split <;> exact distinct
  | policy owned => exact nodup_registerPolicy distinct
  | pruned => exact nodup_prune distinct

/-- The list of sources never shrinks, and what is in it stays in its place. -/
theorem Becomes.sources_prefix
    (becomes : notifier.Becomes world record next after) :
    notifier.sources <+: next.sources := by
  cases becomes with
  | same => exact List.prefix_rfl
  | source source =>
      rw [registerSource]
      split
      case isTrue => exact List.prefix_rfl
      case isFalse => exact List.prefix_append _ _
  | policy owned =>
      rw [registerPolicy]
      split <;> exact List.prefix_rfl
  | pruned => exact List.prefix_rfl

end Becoming

end Notifier

namespace Session

section Registering

variable
  {session : Session}
  {name label : String}
  {notifier : Notifier}
  {record : Registrations}
  {policy : PolicyId}
  {steps : List Step}

/-! ## Steps and runs -/

/-- Whether the notifier of a name, if there is one, has at most one entry for each policy. -/
def ListsOnce
    (session : Session)
    (name : String) : Prop :=
  ∀ notifier, session.notifiers.find? name = some notifier → notifier.policies.Nodup

theorem listsOnce_initial : initial.ListsOnce name := by
  intro notifier found
  exact absurd found (by simp [initial])

theorem ListsOnce.step
    (once : session.ListsOnce name)
    (step : Step) :
    (session.step step).2.ListsOnce name := by
  intro next found
  rcases find?_notifiers_step_cases .none found with ⟨rfl, -⟩ | ⟨current, bound, becomes⟩
  · exact List.nodup_nil
  · exact becomes.nodup (once current bound)

theorem ListsOnce.run
    (once : session.ListsOnce name) :
    (session.run steps).2.ListsOnce name := by
  refine run_induction (motive := fun later => later.ListsOnce name) once ?_
  intro before step _ onceBefore
  exact onceBefore.step step

/-- A notifier stays unless another one is made under its name, and its list of sources
never shrinks. -/
theorem exists_notifier_step
    {step : Step}
    (bound : session.notifiers.find? name = some notifier)
    (unmade : step ≠ .policy (.makeNotifier name)) :
    ∃ next, (session.step step).2.notifiers.find? name = some next ∧
      notifier.sources <+: next.sources := by
  have becomes : Option.Rel
      (fun current next => current.Becomes session.world .none next
        (Registrations.none.after session name step))
      (some notifier) ((session.step step).2.notifiers.find? name) :=
    bound ▸ becomes_step .none unmade
  generalize (session.step step).2.notifiers.find? name = found at becomes ⊢
  cases becomes with
  | some becomes => exact ⟨_, rfl, becomes.sources_prefix⟩

theorem exists_notifier_run
    (bound : session.notifiers.find? name = some notifier)
    (unmade : ∀ step ∈ steps, step ≠ .policy (.makeNotifier name)) :
    ∃ next, (session.run steps).2.notifiers.find? name = some next ∧
      notifier.sources <+: next.sources := by
  refine run_induction
    (motive := fun later => ∃ next, later.notifiers.find? name = some next ∧
      notifier.sources <+: next.sources)
    ⟨notifier, bound, List.prefix_rfl⟩ ?_
  rintro before step present ⟨middle, found, grows⟩
  obtain ⟨next, foundLater, growsLater⟩ := exists_notifier_step found (unmade step present)
  exact ⟨next, foundLater, grows.trans growsLater⟩

theorem step_registerPolicy
    (bound : session.notifiers.find? name = some notifier)
    (owned : session.world.owners.find? label = some policy) :
    session.step (.policy (.registerPolicy name label)) =
      (.done,
        { session with
          notifiers := session.notifiers.assign name
            (notifier.registerPolicy session.world policy) }) := by
  rw [step_eq_settle]
  exact (settle_look_of_some bound).trans (settle_look_of_some owned)

/-! ## The registry -/

/-- What a notifier of some name has in its lists after all that was registered with it
since it was made, and what it will have there. -/
structure KeepsRegistry
    (record : Registrations)
    (name : String)
    (notifier : Notifier)
    (session : Session) : Prop where
  /-- No policy has two entries. -/
  distinct : notifier.policies.Nodup
  /-- The living policies that were registered have entries, in the order of first
  registration. -/
  living : notifier.policies.filter session.world.isAlive = record.living session.world
  /-- Only registered policies have entries. -/
  registered : ∀ policy ∈ notifier.policies, policy ∈ record.policies
  counted : notifier.livePolicies session.world = (record.living session.world).length
  bounded : notifier.livePolicies session.world ≤ notifier.registeredPolicies
  /-- The sources that were registered are there once, in the order of first
  registration. -/
  sources : notifier.sources = record.told
  distinctSources : notifier.sources.Nodup
  /-- Right after a registration, the entries are those of the living policies that were
  ever registered, this one among them. -/
  afterRegistration : ∀ label policy, session.world.owners.find? label = some policy →
    let next := (session.step (.policy (.registerPolicy name label))).2
    let known : Registrations := { record with policies := record.policies ++ [policy] }
    ∃ kept, next.notifiers.find? name = some kept ∧
      kept.policies = known.living next.world ∧ policy ∈ kept.policies
  /-- Right after an announcement, the entries are those of the living policies that were
  ever registered. -/
  afterAnnouncement :
    let next := (session.step (.policy (.announce name))).2
    ∃ kept, next.notifiers.find? name = some kept ∧ kept.policies = record.living next.world
  /-- As long as no other notifier is made under its name, the list of sources only grows
  at its end. -/
  growing : ∀ steps : List Step, (∀ step ∈ steps, step ≠ .policy (.makeNotifier name)) →
    ∃ kept, (session.run steps).2.notifiers.find? name = some kept ∧
      notifier.sources <+: kept.sources

/-- A notifier that holds what was registered with it keeps its registry. -/
theorem keepsRegistry_of_tracks
    (tracks : session.Tracks name record)
    (once : session.ListsOnce name)
    (bound : session.notifiers.find? name = some notifier) :
    KeepsRegistry record name notifier session := by
  have holds : notifier.Holds session.world record := tracks.holds notifier bound
  exact {
    distinct := once notifier bound
    living := holds.policies
    registered := holds.registered
    counted := congrArg List.length holds.living_eq
    bounded := Notifier.livePolicies_le_registeredPolicies
    sources := holds.told_eq
    distinctSources := holds.distinct
    afterRegistration := by
      intro label policy owned
      have alive : session.world.isAlive policy = true := tracks.counted.isAlive_of_find? owned
      have held : session.world.policies.Holds policy := tracks.counted.holds alive
      rw [step_registerPolicy bound owned]
      exact ⟨_, Bindings.find?_assign_self, holds.policies_registerPolicy alive held,
        Notifier.mem_registerPolicy⟩
    afterAnnouncement := by
      rw [step_announce bound]
      refine ⟨_, Bindings.find?_assign_self, ?_⟩
      rw [Registrations.living, Notifier.isAlive_announce, World.announce_snd_fst]
      exact holds.living_eq
    growing := fun steps unmade => exists_notifier_run bound unmade }

/-- A notifier keeps its registry in every session that steps lead to. -/
theorem keepsRegistry
    (steps : List Step)
    {name : String}
    {notifier : Notifier}
    (bound : (initial.run steps).2.notifiers.find? name = some notifier) :
    KeepsRegistry (Registrations.none.afterAll initial name steps) name notifier
      (initial.run steps).2 :=
  keepsRegistry_of_tracks (tracks_initial.run steps) listsOnce_initial.run bound

end Registering

/-- A notifier has two sources, one of them registered twice, and two policies, one of them
registered twice and then dropped; a third policy is registered after that. -/
theorem keepsRegistry_of_dropped_policy :
    let steps : List Step :=
      [.source (.make "store" "store" .memory []), .source (.make "other" "other" .memory []),
        .builder (.make "builder" none []), .builder (.build "builder" "first" none),
        .builder (.build "builder" "second" none), .builder (.build "builder" "third" none),
        .policy (.makeNotifier "notifier"), .policy (.registerSource "notifier" "other"),
        .policy (.registerSource "notifier" "store"),
        .policy (.registerSource "notifier" "other"),
        .policy (.registerPolicy "notifier" "first"),
        .policy (.registerPolicy "notifier" "second"),
        .policy (.registerPolicy "notifier" "first"), .policy (.drop "first")]
    let session := (initial.run steps).2
    let next := (session.step (.policy (.registerPolicy "notifier" "third"))).2
    ∃ notifier, session.notifiers.find? "notifier" = some notifier ∧
      notifier.policies = [⟨0⟩, ⟨1⟩] ∧ notifier.registeredPolicies = 2 ∧
      notifier.livePolicies session.world = 1 ∧ notifier.sources = [⟨1⟩, ⟨0⟩] ∧
      ∃ kept, next.notifiers.find? "notifier" = some kept ∧ kept.policies = [⟨1⟩, ⟨2⟩] := by
  intro steps session next
  have bound : session.notifiers.find? "notifier" = some ⟨[⟨1⟩, ⟨0⟩], [⟨0⟩, ⟨1⟩]⟩ := rfl
  have keeps := keepsRegistry steps bound
  obtain ⟨kept, found, living, -⟩ := keeps.afterRegistration "third" ⟨2⟩ rfl
  refine ⟨_, bound, rfl, rfl, ?_, ?_, kept, found, ?_⟩
  · exact keeps.counted.trans rfl
  · exact keeps.sources.trans rfl
  · exact living.trans rfl

end Session
end TrustPolicy
