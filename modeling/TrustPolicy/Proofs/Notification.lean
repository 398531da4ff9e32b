import TrustPolicy.Proofs.Registrations

/-!
# Notification

An announcement tells each registered source once, in the order of first
registration, and only then drops the anchors of the registered policies that are
alive. Nothing else changes, and the next read of each of these policies is given
what the sources supply then.
-/

namespace TrustPolicy

namespace World

/-! ## The next read -/

section NextRead

variable
  {world : World}
  {policy : PolicyId}
  {call : Call}
  {calls : List Call}

/-- Whether calls in order read no anchors of a policy. -/
def LeavesUnread
    (world : World)
    (policy : PolicyId) : List Call → Prop
  | [] => True
  | call :: rest => ¬call.Reads world policy ∧ (world.perform call).LeavesUnread policy rest

/-- A cell that is not read stays empty. -/
theorem unfilled_performAll
    (held : world.policies.Holds policy)
    (unfilled : (world.policies.get policy).anchors.slot = none)
    (unread : world.LeavesUnread policy calls) :
    ((world.performAll calls).policies.get policy).anchors.slot = none := by
  induction calls generalizing world with
  | nil => exact unfilled
  | cons call rest inductionHypothesis =>
      obtain ⟨notReads, unreadRest⟩ := unread
      refine inductionHypothesis (holds_perform held) ?_ unreadRest
      by_cases invalidates : call.Invalidates world policy
      · rw [get_perform_of_invalidates invalidates]
        rfl
      · obtain ⟨cell, after⟩ := get_perform_of_neither held notReads invalidates
        rw [after, ← unfilled]

end NextRead

end World

/-! ## Announcements -/

namespace Registrations

/-- The distinct sources that were registered, in the order of first registration. -/
def told (record : Registrations) : List SourceId :=
  record.sources.eraseDups

/-- The distinct policies that were registered and are alive, in the order of first
registration. -/
def living
    (record : Registrations)
    (world : World) : List PolicyId :=
  record.policies.eraseDups.filter world.isAlive

/-- The deeds of an announcement: all sources are told before any anchors are dropped. -/
def deeds
    (record : Registrations)
    (world : World) : List World.Deed :=
  record.told.map .tell ++ (record.living world).map .drop

end Registrations

/-- What an announcement to what was registered with the notifier of a name does to a
session, with the session after it. -/
structure Announces
    (record : Registrations)
    (name : String)
    (notifier : Notifier)
    (session next : Session) : Prop where
  /-- The announcement is a sequence of deeds with a report. -/
  ordered : next.world = ((record.deeds session.world).foldl World.carryOut session.world).report
    (.trustStoreChanged record.told.length (record.living session.world).length)
  /-- Whatever a source does when it is told, each registered source is told once, in the
  order of first registration, and no anchors are dropped until all of them are. -/
  handlers : ∀ handler : World → SourceId → World,
    World.announceBy handler session.world notifier =
      (record.told.foldl handler session.world).invalidateRegistered notifier
  /-- A source that is told sees the policies as they were before the announcement. -/
  unseen : ∀ before source after, record.told = before ++ source :: after →
    ((before.map World.Deed.tell).foldl World.carryOut session.world).lookAt =
      session.world.lookAt
  /-- Each registered source hears the announcement once, and no other source does. -/
  heard : ∀ source, next.world.sources.get source =
    if source ∈ record.sources then
      (session.world.sources.get source).announced session.world.lookAt
    else session.world.sources.get source
  /-- The registered policies that are alive lose their anchors; nothing else about
  policies changes. -/
  dropped : ∀ policy, next.world.policies.get policy =
    if policy ∈ record.policies ∧ session.world.isAlive policy = true then
      (session.world.policies.get policy).emptied
    else session.world.policies.get policy
  /-- As long as nobody has read a policy that lost its anchors, the next read is given
  what the sources supply by then. -/
  recomputed : ∀ policy calls, policy ∈ record.living session.world →
    next.world.LeavesUnread policy calls →
    ((next.world.performAll calls).trustAnchors policy).1.map
        (fun snapshot => snapshot.anchors.anchors) =
      (next.world.performAll calls).currentAnchors policy
  counted : notifier.livePolicies session.world = (record.living session.world).length
  /-- The notifier keeps its sources and the entries of living policies. -/
  kept : ∃ kept, next.notifiers.find? name = some kept ∧
    kept.sources = notifier.sources ∧
    kept.livePolicies next.world = (record.living session.world).length ∧
    kept.registeredPolicies = (record.living session.world).length
  /-- Other notifiers stay as they are. -/
  others : ∀ other, other ≠ name → next.notifiers.find? other = session.notifiers.find? other
  /-- All else in the session stays as it is. -/
  confined : next = { session with world := next.world, notifiers := next.notifiers }
  /-- All else in the world stays as it is. -/
  confinedWorld : next.world =
    { session.world with
      sources := next.world.sources
      policies := next.world.policies
      events := next.world.events }

/-! ## What a notifier does to what was registered -/

namespace Notifier

section Announcing

variable
  {notifier : Notifier}
  {world : World}
  {record : Registrations}
  {policy : PolicyId}
  {source : SourceId}

theorem isAlive_announce :
    (world.announce notifier).2.2.isAlive = world.isAlive := by
  rw [World.announce_snd_snd_eq]
  rfl

theorem livePolicies_prune :
    (notifier.prune world).livePolicies world = (notifier.prune world).policies.length := by
  simp [livePolicies, prune]

theorem mem_living :
    policy ∈ record.living world ↔ policy ∈ record.policies ∧ world.isAlive policy = true := by
  rw [Registrations.living, List.mem_filter, List.mem_eraseDups]

namespace Holds

theorem told_eq
    (holds : notifier.Holds world record) :
    notifier.sources = record.told :=
  holds.sources

theorem living_eq
    (holds : notifier.Holds world record) :
    (notifier.prune world).policies = record.living world :=
  holds.policies

/-- A notifier that holds what was registered with it does the deeds for all of it. -/
theorem deeds_eq
    (holds : notifier.Holds world record) :
    world.deeds notifier = record.deeds world := by
  rw [World.deeds, Registrations.deeds, holds.told_eq, ← holds.living_eq, Notifier.prune]

/-- A source is told once if it was registered, however often. -/
theorem get_source
    (holds : notifier.Holds world record) :
    (world.announce notifier).2.2.sources.get source =
      if source ∈ record.sources then (world.sources.get source).announced world.lookAt
      else world.sources.get source := by
  have registered : source ∈ notifier.sources ↔ source ∈ record.sources := by
    rw [holds.sources, List.mem_eraseDups]
  rw [World.announce_snd_snd_eq]
  dsimp only
  rw [World.get_foldl_announceTo holds.distinct]
  simp only [registered]

/-- A policy loses its anchors if it was registered and is alive. -/
theorem get_policy
    (holds : notifier.Holds world record) :
    (world.announce notifier).2.2.policies.get policy =
      if policy ∈ record.policies ∧ world.isAlive policy = true then
        (world.policies.get policy).emptied
      else world.policies.get policy := by
  have registered : policy ∈ notifier.policies ∧ world.isAlive policy = true ↔
      policy ∈ record.policies ∧ world.isAlive policy = true := by
    rw [← mem_living, ← holds.living_eq, Notifier.prune, List.mem_filter]
  rw [World.get_announce]
  simp only [registered]

end Holds

end Announcing

end Notifier

namespace Session

section Announcing

variable
  {session : Session}
  {name : String}
  {notifier : Notifier}
  {record : Registrations}

theorem step_announce
    (bound : session.notifiers.find? name = some notifier) :
    session.step (.policy (.announce name)) =
      (.count (session.world.announce notifier).1,
        { session with
          world := (session.world.announce notifier).2.2
          notifiers := session.notifiers.assign name (session.world.announce notifier).2.1 }) := by
  rw [step_eq_settle]
  exact settle_look_of_some bound

/-- A notifier that holds what was registered with it announces to all of it. -/
theorem announces_of_holds
    (counted : session.world.IsCounted [])
    (bound : session.notifiers.find? name = some notifier)
    (holds : notifier.Holds session.world record) :
    (session.step (.policy (.announce name))).1 = .count (record.living session.world).length ∧
      Announces record name notifier session (session.step (.policy (.announce name))).2 := by
  have after : (session.world.announce notifier).2.2 = _ := World.announce_snd_snd_eq
  rw [step_announce bound]
  refine ⟨by rw [World.announce_eq, holds.living_eq], ?_⟩
  exact {
    ordered := by
      rw [World.announce_eq, holds.deeds_eq, holds.living_eq, holds.told_eq]
    handlers := fun handler => by rw [World.announceBy, holds.told_eq]
    unseen := by
      intro before source after split
      rw [List.foldl_map]
      exact World.lookAt_foldl_announceTo
    heard := fun source => holds.get_source
    dropped := fun policy => holds.get_policy
    recomputed := by
      intro policy calls present unread
      have living := Notifier.mem_living.1 present
      refine World.trustAnchors_fst_of_slot_eq_none (World.unfilled_performAll ?_ ?_ unread)
      · exact World.holds_announce.2 (counted.holds living.2)
      · rw [holds.get_policy, if_pos living]
        rfl
    counted := congrArg List.length holds.living_eq
    kept := by
      refine ⟨_, Bindings.find?_assign_self, ?_⟩
      dsimp only
      rw [World.announce_snd_fst, Notifier.livePolicies, Notifier.isAlive_announce, ← Notifier.livePolicies,
        Notifier.livePolicies_prune, Notifier.registeredPolicies, holds.living_eq]
      exact ⟨rfl, rfl, rfl⟩
    others := fun other different => Bindings.find?_assign_of_ne different
    confined := rfl
    confinedWorld := by
      have sources := congrArg World.sources after
      dsimp only at sources ⊢
      rw [sources]
      exact after }

end Announcing

/-- In every session that steps lead to, an announcement to a notifier answers with
the number of policies that lose their anchors, and does what it should do to all that
was registered with the notifier since it was made, and to nothing else. -/
theorem announces_to_registered
    (steps : List Step)
    {name : String}
    {notifier : Notifier}
    (bound : (initial.run steps).2.notifiers.find? name = some notifier) :
    ((initial.run steps).2.step (.policy (.announce name))).1 =
        .count ((Registrations.none.afterAll initial name steps).living
          (initial.run steps).2.world).length ∧
      Announces (Registrations.none.afterAll initial name steps) name notifier
        (initial.run steps).2 ((initial.run steps).2.step (.policy (.announce name))).2 := by
  have tracks : (initial.run steps).2.Tracks name
      (Registrations.none.afterAll initial name steps) := tracks_initial.run steps
  exact announces_of_holds tracks.counted bound (tracks.holds notifier bound)

/-- A notifier has two sources, one of them registered twice, which watches a policy,
and two policies, one of them registered twice and the other one dropped; a third
policy is not registered. The source that counts hears one announcement, and what it
supplies after that is what the next read is given. -/
theorem announces_to_watcher_and_store :
    let steps : List Step :=
      [.source (.make "store" "store" .counting []), .source (.make "watcher" "watcher" .scripted []),
        .builder (.make "builder" none [.addRef ⟨"store", false⟩]),
        .builder (.build "builder" "kept" none), .builder (.build "builder" "dropped" none),
        .builder (.build "builder" "other" none),
        .policy (.makeNotifier "notifier"), .policy (.registerSource "notifier" "watcher"),
        .policy (.registerSource "notifier" "store"),
        .policy (.registerSource "notifier" "watcher"),
        .policy (.registerPolicy "notifier" "kept"), .policy (.registerPolicy "notifier" "dropped"),
        .policy (.registerPolicy "notifier" "kept"), .source (.watch "watcher" "kept"),
        .policy (.takeAnchors "kept" none), .policy (.takeAnchors "other" none),
        .policy (.drop "dropped")]
    let session := (initial.run steps).2
    let record := Registrations.none.afterAll initial "notifier" steps
    let outcome := session.step (.policy (.announce "notifier"))
    let later := outcome.2.world.performAll
      [.changeSource ⟨0⟩ (.replace [World.namelessCertificate])]
    ∃ notifier, session.notifiers.find? "notifier" = some notifier ∧
      record.told = [⟨1⟩, ⟨0⟩] ∧ record.living session.world = [⟨0⟩] ∧
      outcome.1 = .count 1 ∧
      (∀ handler, World.announceBy handler session.world notifier =
        (handler (handler session.world ⟨1⟩) ⟨0⟩).invalidateRegistered notifier) ∧
      outcome.2.world.sources.get ⟨1⟩ =
        ⟨"watcher", .scripted { certificates := [], watched := [⟨0⟩], seen := [true] }⟩ ∧
      outcome.2.world.sources.get ⟨0⟩ =
        ⟨"store", .counting { certificates := [], queries := 2, announcements := 1 }⟩ ∧
      (outcome.2.world.policies.get ⟨0⟩).anchors.slot = none ∧
      (outcome.2.world.policies.get ⟨2⟩).anchors.slot = some ⟨1, AnchorSet.empty⟩ ∧
      (later.trustAnchors ⟨0⟩).1.map (fun snapshot => snapshot.anchors.anchors) =
        .ok [⟨World.namelessCertificate, false⟩] := by
  intro steps session record outcome later
  have bound : session.notifiers.find? "notifier" = some ⟨[⟨1⟩, ⟨0⟩], [⟨0⟩, ⟨1⟩]⟩ := rfl
  have living : record.living session.world = [⟨0⟩] := rfl
  obtain ⟨answer, announces⟩ := announces_to_registered steps bound
  refine ⟨_, bound, rfl, living, ?_, announces.handlers, ?_, ?_, ?_, ?_, ?_⟩
  · exact answer.trans (congrArg (fun policies => Answer.count policies.length) living)
  · exact announces.heard ⟨1⟩
  · exact announces.heard ⟨0⟩
  · exact congrArg (fun policy => policy.anchors.slot) (announces.dropped ⟨0⟩)
  · exact congrArg (fun policy => policy.anchors.slot) (announces.dropped ⟨2⟩)
  · exact announces.recomputed ⟨0⟩ _ (living ▸ List.mem_cons_self) ⟨id, trivial⟩

end Session
end TrustPolicy
