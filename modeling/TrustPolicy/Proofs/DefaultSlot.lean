import TrustPolicy.Proofs.Observers

/-!
# The slot for the default policy

The first installation of a run fills the slot, and no other step does anything to it. The
policy in it lives without a name. It trusts the sources of the installation that filled
the slot, whatever sources later installations come with.
-/

namespace TrustPolicy

/-! ## The default policy -/

namespace World

section Standard

variable
  {world : World}
  {policy : PolicyId}
  {sources : DefaultSources}
  {system user : List Certificate}

/-- References to two sources that answer contribute their certificates one after the other. -/
theorem contributions_pair
    (systemAnswers : (world.sources.get sources.system).certificates = .ok system)
    (userAnswers : (world.sources.get sources.user).certificates = .ok user) :
    world.contributions [⟨sources.system, false⟩, ⟨sources.user, false⟩] =
      .ok ((system ++ user).map fun certificate => ⟨certificate, false⟩) := by
  have userContributes : world.contributions [⟨sources.user, false⟩] =
      .ok (user.map fun certificate => ⟨certificate, false⟩) :=
    contributions_cons_eq_ok_iff.2 ⟨user, [], userAnswers, rfl, (List.append_nil _).symm⟩
  exact contributions_cons_eq_ok_iff.2
    ⟨system, _, systemAnswers, userContributes, List.map_append⟩

/-- A read of an empty cell of a policy that trusts two sources is given their certificates
in order, each fingerprint once. -/
theorem trustAnchors_of_pair
    (refs : (world.policies.get policy).settings.entryRefs =
      [⟨sources.system, false⟩, ⟨sources.user, false⟩])
    (unfilled : (world.policies.get policy).anchors.isPopulated = false)
    (systemAnswers : (world.sources.get sources.system).certificates = .ok system)
    (userAnswers : (world.sources.get sources.user).certificates = .ok user) :
    ∃ snapshot, (world.trustAnchors policy).1 = .ok snapshot ∧
      snapshot.anchors.anchors = Anchor.firstOccurrences
        ((system ++ user).map fun certificate => ⟨certificate, false⟩) := by
  have empty : (world.policies.get policy).anchors.slot = none :=
    Option.isNone_iff_eq_none.1 (Option.isSome_eq_false_iff.1 unfilled)
  have contributes := contributions_pair systemAnswers userAnswers
  rw [← refs] at contributes
  exact ⟨_, congrArg Prod.fst (trustAnchors_of_contributions_ok empty contributes),
    AnchorSet.anchors_ofList _⟩

end Standard

end World

/-- The first occurrences in a list are members of it. -/
theorem Anchor.mem_of_mem_firstOccurrences
    {anchor : Anchor}
    {anchors : List Anchor}
    (present : anchor ∈ firstOccurrences anchors) :
    anchor ∈ anchors := by
  obtain ⟨entry, kept, rfl⟩ := List.mem_map.1 present
  exact List.fst_mem_of_mem_zipIdx (List.mem_filter.1 kept).1

namespace Session

section Steps

variable
  {session : Session}
  {steps : List Step}
  {position : Nat}

/-! ## Steps on the slot -/

section Slot

variable
  {label name : String}
  {sources : DefaultSources}
  {policy : PolicyId}

/-- An installation succeeds if the slot is empty. -/
theorem step_installDefault_of_vacant
    (found : session.defaultSources.find? label = some sources)
    (vacant : session.world.defaultPolicy = none) :
    (session.step (.value (.installDefault label name))).1 = .done := by
  rw [step_eq_settle, attempt, ValueStep.run, settle_look_of_some found, World.installDefault,
    vacant]
  rfl

/-- An installation is refused if the slot is filled, and changes nothing. -/
theorem step_installDefault_of_installed
    (found : session.defaultSources.find? label = some sources)
    (installed : session.world.defaultPolicy = some policy) :
    session.step (.value (.installDefault label name)) =
      (.refused .defaultPolicyAlreadyInstalled, session) := by
  rw [step_eq_settle, attempt, ValueStep.run, settle_look_of_some found, World.installDefault,
    installed]
  rfl

theorem step_getDefault_of_vacant
    (vacant : session.world.defaultPolicy = none) :
    session.step (.value (.getDefault name)) = (.nothing, session) := by
  rw [step_eq_settle, attempt, ValueStep.run, World.takeDefault, vacant]
  rfl

theorem step_getDefault_of_installed
    (installed : session.world.defaultPolicy = some policy) :
    session.step (.value (.getDefault name)) =
      (.done, session.withWorld ((session.world.retain policy).own name policy)) := by
  rw [step_eq_settle, attempt, ValueStep.run, World.takeDefault, installed]
  rfl

end Slot

/-! ## Answers of a run -/

theorem getElem?_run :
    (session.run steps).1[position]? = steps[position]?.map fun step =>
      ((stateAt (fun before step => (before.step step).2) session steps position).step step).1 := by
  induction steps generalizing session position with
  | nil => rfl
  | cons step rest inductionHypothesis =>
      cases position with
      | zero => rfl
      | succ position => exact inductionHypothesis

/-- The answer to a step is that of the session in which it is carried out. -/
theorem getElem?_answers
    {step : Step}
    (present : steps[position]? = some step) :
    (answers steps)[position]? = some ((sessionAt steps position).step step).1 := by
  rw [answers, getElem?_run, present, Option.map_some]

end Steps

/-! ## The slot in a run -/

/-- Whether the step at a position of a run is to install a default policy that trusts some
sources, under a name. -/
def AsksToInstall
    (steps : List Step)
    (position : Nat)
    (name : String)
    (sources : DefaultSources) : Prop :=
  ∃ label, steps[position]? = some (.value (.installDefault label name)) ∧
    (sessionAt steps position).defaultSources.find? label = some sources

/-- What stands once a step of a run has installed a default policy under a name. -/
structure StandsFrom
    (steps : List Step)
    (moment : Nat)
    (name : String)
    (sources : DefaultSources)
    (policy : PolicyId) : Prop where
  /-- The step gives its name the policy that it stores. -/
  owned : (sessionAt steps (moment + 1)).world.owners.find? name = some policy
  /-- The slot holds this policy from then on. -/
  stored : ∀ later, moment < later →
    (sessionAt steps later).world.defaultPolicy = some policy
  /-- The policy lives, with or without a name. -/
  alive : ∀ later, moment < later →
    (sessionAt steps later).world.isAlive policy = true
  /-- A step that asks for the default policy is given this one. -/
  given : ∀ later other, moment < later →
    steps[later]? = some (.value (.getDefault other)) →
    (answers steps)[later]? = some .done ∧
      (sessionAt steps (later + 1)).world.owners.find? other = some policy
  /-- Its settings are those of the documented default: cleartext traffic is permitted,
  HSTS is not enforced, there are no pins, and neither source bypasses pins. -/
  settings : ∀ later, moment < later →
    (policyAt steps policy later).settings =
      ⟨true, false, PinSet.empty, [⟨sources.system, false⟩, ⟨sources.user, false⟩]⟩
  /-- Its pins never expire. -/
  unexpired : ∀ later now, moment < later →
    (policyAt steps policy later).settings.pins.isExpiredAt now = false
  /-- If both sources answer, a read of the empty cell is given the certificates of the
  platform and then those of the user, each fingerprint once. None of them bypasses pins. -/
  anchors : ∀ later system user, moment < later →
    (policyAt steps policy later).anchors.isPopulated = false →
    ((sessionAt steps later).world.sources.get sources.system).certificates = .ok system →
    ((sessionAt steps later).world.sources.get sources.user).certificates = .ok user →
    ∃ snapshot, ((sessionAt steps later).world.trustAnchors policy).1 = .ok snapshot ∧
      snapshot.anchors.anchors = Anchor.firstOccurrences
        ((system ++ user).map fun certificate => ⟨certificate, false⟩) ∧
      ∀ anchor ∈ snapshot.anchors.anchors, anchor.overridesPins = false

/-- What a run does with the slot for the default policy. -/
structure InstallsOnce (steps : List Step) : Prop where
  /-- The slot is empty until the first step that is to install a default policy. -/
  vacant : ∀ position, (sessionAt steps position).world.defaultPolicy = none ↔
    ∀ earlier name sources, earlier < position → ¬AsksToInstall steps earlier name sources
  /-- A step that asks for the default policy of an empty slot is given none. -/
  absent : ∀ position name, steps[position]? = some (.value (.getDefault name)) →
    (sessionAt steps position).world.defaultPolicy = none →
    (answers steps)[position]? = some .nothing ∧
      sessionAt steps (position + 1) = sessionAt steps position
  /-- An installation succeeds just if the slot is empty. -/
  succeeds : ∀ position name sources, AsksToInstall steps position name sources →
    ((answers steps)[position]? = some .done ↔
      (sessionAt steps position).world.defaultPolicy = none)
  /-- After a first installation all others are refused, and change nothing. -/
  refused : ∀ first position name instead sources others, first < position →
    AsksToInstall steps first name sources → AsksToInstall steps position instead others →
    (answers steps)[position]? = some (.refused .defaultPolicyAlreadyInstalled) ∧
      sessionAt steps (position + 1) = sessionAt steps position
  /-- What an installation that succeeds has put into the slot stands. -/
  stands : ∀ position name sources, AsksToInstall steps position name sources →
    (answers steps)[position]? = some .done →
    ∃ policy, StandsFrom steps position name sources policy

section Runs

variable
  {steps : List Step}
  {position first last : Nat}
  {name : String}
  {sources : DefaultSources}
  {policy : PolicyId}

/-- What was installed before a position was installed before all later ones. -/
theorem InstalledBefore.of_le
    (installed : InstalledBefore steps first policy)
    (ordered : first ≤ last) :
    InstalledBefore steps last policy := by
  obtain ⟨moment, step, name, sources, before, planned⟩ := installed
  exact ⟨moment, step, name, sources, Nat.lt_of_lt_of_le before ordered, planned⟩

/-- What the slot holds stays in it. -/
theorem defaultPolicy_of_le
    (installed : (sessionAt steps first).world.defaultPolicy = some policy)
    (ordered : first ≤ last) :
    (sessionAt steps last).world.defaultPolicy = some policy :=
  installedBefore_iff.1 ((installedBefore_iff.2 installed).of_le ordered)

/-- An installation into an empty slot builds the default policy. -/
theorem AsksToInstall.builtAt
    (asks : AsksToInstall steps position name sources)
    (vacant : (sessionAt steps position).world.defaultPolicy = none) :
    BuiltAt steps position (sessionAt steps position).world.policies.fresh
      ⟨name, .standard sources, none⟩ sources.builder.settings := by
  obtain ⟨label, present, found⟩ := asks
  exact ⟨⟨_, present, .standard found vacant⟩, rfl, rfl⟩

/-- An installation leaves the slot filled, by itself or by an earlier one. -/
theorem AsksToInstall.exists_defaultPolicy
    (asks : AsksToInstall steps first name sources)
    (later : first < last) :
    ∃ policy, (sessionAt steps last).world.defaultPolicy = some policy := by
  cases slot : (sessionAt steps first).world.defaultPolicy with
  | some policy => exact ⟨policy, defaultPolicy_of_le slot (Nat.le_of_lt later)⟩
  | none =>
      obtain ⟨step, present, planned⟩ := (asks.builtAt slot).planned
      have installed : InstalledBefore steps last (sessionAt steps first).world.policies.fresh :=
        ⟨first, step, name, sources, later, present, planned, rfl⟩
      exact ⟨_, installedBefore_iff.1 installed⟩

/-- The slot is empty if and only if no earlier step was to fill it. -/
theorem defaultPolicy_eq_none_iff :
    (sessionAt steps position).world.defaultPolicy = none ↔
      ∀ earlier name sources, earlier < position →
        ¬AsksToInstall steps earlier name sources := by
  constructor
  · intro vacant earlier name sources before asks
    obtain ⟨policy, filled⟩ := asks.exists_defaultPolicy before
    exact absurd (vacant.symm.trans filled) (by simp)
  · intro never
    rw [Option.eq_none_iff_forall_ne_some]
    intro policy filled
    obtain ⟨moment, step, name, sources, before, present, planned, -⟩ :=
      installedBefore_iff.2 filled
    cases planned with
    | standard found _ => exact never moment name sources before ⟨_, present, found⟩

/-- An installation into an empty slot stands. -/
theorem AsksToInstall.standsFrom
    (asks : AsksToInstall steps position name sources)
    (vacant : (sessionAt steps position).world.defaultPolicy = none) :
    StandsFrom steps position name sources (sessionAt steps position).world.policies.fresh := by
  -- The policy that the step builds is frozen, and the slot is filled with it.
  have built := asks.builtAt vacant
  obtain ⟨step, present, planned⟩ := built.planned
  have filled : (sessionAt steps (position + 1)).world.defaultPolicy =
      some (sessionAt steps position).world.policies.fresh := by
    rw [sessionAt_succ present]
    exact planned.defaultPolicy_step
  have stored (later : Nat) (after : position < later) :
      (sessionAt steps later).world.defaultPolicy =
        some (sessionAt steps position).world.policies.fresh :=
    defaultPolicy_of_le filled after
  have settings (later : Nat) (after : position < later) :
      (policyAt steps (sessionAt steps position).world.policies.fresh later).settings =
        ⟨true, false, PinSet.empty, [⟨sources.system, false⟩, ⟨sources.user, false⟩]⟩ :=
    (built.kept after).2.1
  constructor
  case owned => exact built.get_succ.1
  case stored => exact stored
  case settings => exact settings
  case alive =>
    intro later after
    exact isOrderly_sessionAt.counted.isAlive_iff.2 (.inr (stored later after))
  case given =>
    intro later other after asked
    rw [getElem?_answers asked, sessionAt_succ asked,
      step_getDefault_of_installed (stored later after)]
    exact ⟨rfl, Bindings.find?_assign_self⟩
  case unexpired =>
    intro later now after
    rw [settings later after]
    rfl
  case anchors =>
    intro later system user after unfilled systemAnswers userAnswers
    have refs := congrArg Settings.entryRefs (settings later after)
    obtain ⟨snapshot, answer, anchors⟩ :=
      World.trustAnchors_of_pair refs unfilled systemAnswers userAnswers
    refine ⟨snapshot, answer, anchors, fun anchor present => ?_⟩
    rw [anchors] at present
    obtain ⟨certificate, -, rfl⟩ :=
      List.mem_map.1 (Anchor.mem_of_mem_firstOccurrences present)
    rfl

/-- An installation succeeds if and only if it finds the slot empty. -/
theorem AsksToInstall.answers_eq_done_iff
    (asks : AsksToInstall steps position name sources) :
    (answers steps)[position]? = some .done ↔
      (sessionAt steps position).world.defaultPolicy = none := by
  obtain ⟨label, present, found⟩ := asks
  rw [getElem?_answers present]
  cases slot : (sessionAt steps position).world.defaultPolicy with
  | none => simp [step_installDefault_of_vacant found slot]
  | some policy => simp [step_installDefault_of_installed found slot]

end Runs

/-- Every run fills the slot for the default policy once, with a policy that stands. -/
theorem installsOnce
    (steps : List Step) :
    InstallsOnce steps where
  vacant position := defaultPolicy_eq_none_iff
  absent position name asked vacant := by
    rw [getElem?_answers asked, sessionAt_succ asked, step_getDefault_of_vacant vacant]
    exact ⟨rfl, rfl⟩
  succeeds position name sources := AsksToInstall.answers_eq_done_iff
  refused first position name instead sources others ordered asks again := by
    obtain ⟨policy, installed⟩ := asks.exists_defaultPolicy ordered
    obtain ⟨label, present, found⟩ := again
    rw [getElem?_answers present, sessionAt_succ present,
      step_installDefault_of_installed found installed]
    exact ⟨rfl, rfl⟩
  stands position name sources asks succeeds :=
    ⟨_, asks.standsFrom (asks.answers_eq_done_iff.1 succeeds)⟩

/-- The first of two installations is that of two stores with a certificate in common. The
second one is refused, and the policy of the first is there after its name was dropped. -/
theorem installsOnce_of_two_installations :
    let other : Certificate :=
      ⟨World.namelessCertificate.der.set 6 0x02, ⟨[], []⟩, _, by decide, rfl⟩
    let steps : List Step :=
      [.source (.decode "shared" World.namelessCertificate.der),
        .source (.decode "other" other.der),
        .source (.make "platform" "platform" .memory ["shared"]),
        .source (.make "added" "added" .memory ["other", "shared"]),
        .value (.makeDefaultSources "stores" (some ("platform", "added"))),
        .value (.makeDefaultSources "empty" none),
        .value (.installDefault "stores" "installed"),
        .value (.installDefault "empty" "refused"),
        .policy (.drop "installed"), .value (.getDefault "fetched")]
    ∃ policy, (answers steps)[7]? = some (.refused .defaultPolicyAlreadyInstalled) ∧
      sessionAt steps 8 = sessionAt steps 7 ∧
      (sessionAt steps 7).world.owners.find? "installed" = some policy ∧
      (sessionAt steps 9).world.isAlive policy = true ∧
      (sessionAt steps 10).world.owners.find? "fetched" = some policy ∧
      (policyAt steps policy 10).settings =
        ⟨true, false, PinSet.empty, [⟨⟨0⟩, false⟩, ⟨⟨1⟩, false⟩]⟩ ∧
      ∃ snapshot, ((sessionAt steps 10).world.trustAnchors policy).1 = .ok snapshot ∧
        snapshot.anchors.anchors = [⟨World.namelessCertificate, false⟩, ⟨other, false⟩] := by
  intro other steps
  have once := installsOnce steps
  have asks : AsksToInstall steps 6 "installed" ⟨⟨0⟩, ⟨1⟩⟩ :=
    ⟨"stores", rfl, by decide +kernel⟩
  have again : AsksToInstall steps 7 "refused" ⟨⟨2⟩, ⟨3⟩⟩ :=
    ⟨"empty", rfl, by decide +kernel⟩
  have refused := once.refused 6 7 _ _ _ _ (by decide) asks again
  have vacant : (sessionAt steps 6).world.defaultPolicy = none := by decide +kernel
  obtain ⟨policy, stands⟩ := once.stands 6 _ _ asks ((once.succeeds 6 _ _ asks).2 vacant)
  have owned : (sessionAt steps 7).world.owners.find? "installed" = some ⟨0⟩ := by
    decide +kernel
  obtain rfl : policy = ⟨0⟩ := Option.some_inj.1 (stands.owned.symm.trans owned)
  obtain ⟨snapshot, answer, anchors, -⟩ :=
    stands.anchors 10 [World.namelessCertificate] [other, World.namelessCertificate]
      (by decide) (by decide +kernel) (by decide +kernel) (by decide +kernel)
  have different : World.namelessCertificate.fingerprint ≠ other.fingerprint := by
    decide +kernel
  have fetched : (sessionAt steps (9 + 1)).world.owners.find? "fetched" = some ⟨0⟩ :=
    (stands.given 9 _ (by decide) rfl).2
  refine ⟨⟨0⟩, refused.1, refused.2, owned, stands.alive 9 (by decide),
    by simpa only [Nat.reduceAdd] using fetched, stands.settings 10 (by decide), snapshot, answer,
    ?_⟩
  rw [anchors]
  simp [Anchor.firstOccurrences, different, List.filter_cons]

end Session
end TrustPolicy
