import TrustPolicy.Proofs.Epochs
import TrustPolicy.Proofs.Reads

/-!
# Configurations

Policies have the same configuration if they were built with the same settings. Settings never
change, so the comparison of two policies has one outcome for all time. References are compared
by the identity of their sources, so at any moment policies with the same configuration ask the
same sources in the same order: they are given equal sets of anchors, or the same error.
-/

namespace TrustPolicy

/-- Policies have the same configuration if all four values of their settings agree. -/
theorem Policy.sameConfiguration_iff
    {first second : Policy} :
    first.sameConfiguration second = true ↔
      first.settings.cleartextPermitted = second.settings.cleartextPermitted ∧
        first.settings.hstsEnforced = second.settings.hstsEnforced ∧
        first.settings.pins = second.settings.pins ∧
        first.settings.entryRefs = second.settings.entryRefs := by
  rw [sameConfiguration, decide_eq_true_iff]
  generalize first.settings = settings
  generalize second.settings = others
  cases settings
  cases others
  rw [Settings.mk.injEq]

namespace World

/-- That a read of one policy can stand in for a read of another. -/
structure Interchangeable
    (world : World)
    (policy other : PolicyId) : Prop where
  /-- Both reads are given equal sets of anchors, or the same error. -/
  given : (world.trustAnchors policy).1.map Snapshot.anchors =
    (world.trustAnchors other).1.map Snapshot.anchors
  /-- Both reads query the same sources in the same order. -/
  asks : world.readQueries policy = world.readQueries other
  /-- A read of the one after a read of the other is given no other anchors. -/
  consecutive : ((world.trustAnchors policy).2.trustAnchors other).1.map Snapshot.anchors =
    (world.trustAnchors policy).1.map Snapshot.anchors

section Interchangeable

variable
  {world : World}
  {policy other : PolicyId}

/-- Policies with the same references and empty cells are given the same. -/
theorem readSet_congr
    (unfilled : (world.policies.get policy).anchors.slot = none)
    (otherUnfilled : (world.policies.get other).anchors.slot = none)
    (sameRefs : (world.policies.get policy).settings.entryRefs =
      (world.policies.get other).settings.entryRefs) :
    world.readSet policy = world.readSet other := by
  rw [readSet_of_slot_eq_none unfilled, readSet_of_slot_eq_none otherUnfilled, sameRefs]

/-- Policies with the same references and empty cells stand in for each other. -/
theorem interchangeable_of_entryRefs_eq
    (unfilled : (world.policies.get policy).anchors.slot = none)
    (otherUnfilled : (world.policies.get other).anchors.slot = none)
    (sameRefs : (world.policies.get policy).settings.entryRefs =
      (world.policies.get other).settings.entryRefs) :
    world.Interchangeable policy other where
  given := by
    rw [map_anchors_trustAnchors, map_anchors_trustAnchors]
    exact readSet_congr unfilled otherUnfilled sameRefs
  asks := by
    rw [readQueries_of_slot_eq_none unfilled, readQueries_of_slot_eq_none otherUnfilled, sameRefs]
  consecutive := by
    rw [map_anchors_trustAnchors, map_anchors_trustAnchors, readSet_after_trustAnchors]
    exact (readSet_congr unfilled otherUnfilled sameRefs).symm

end Interchangeable

/-! ## Comparisons along a run -/

/-- Whether two policies have the same configuration at a position of a run. -/
def SameAt
    (calls : List Call)
    (position : Nat)
    (policy other : PolicyId) : Prop :=
  ((worldAt calls position).policies.get policy).sameConfiguration
    ((worldAt calls position).policies.get other) = true

/-- Whether both of two policies have been built at a position of a run. -/
def BothBuiltAt
    (calls : List Call)
    (position : Nat)
    (policy other : PolicyId) : Prop :=
  (worldAt calls position).policies.Holds policy ∧ (worldAt calls position).policies.Holds other

/-- Whether neither of two policies has anchors cached at a position of a run. -/
def BothUnfilledAt
    (calls : List Call)
    (position : Nat)
    (policy other : PolicyId) : Prop :=
  cachedAt calls policy position = none ∧ cachedAt calls other position = none

section Comparisons

variable
  {calls : List Call}
  {position first last : Nat}
  {policy other : PolicyId}

theorem sameAt_iff_settings_eq :
    SameAt calls position policy other ↔
      ((worldAt calls position).policies.get policy).settings =
        ((worldAt calls position).policies.get other).settings :=
  decide_eq_true_iff

theorem equivalence_sameAt
    (calls : List Call)
    (position : Nat) :
    Equivalence (SameAt calls position) where
  refl _ := sameAt_iff_settings_eq.2 rfl
  symm same := sameAt_iff_settings_eq.2 (sameAt_iff_settings_eq.1 same).symm
  trans same next :=
    sameAt_iff_settings_eq.2 ((sameAt_iff_settings_eq.1 same).trans (sameAt_iff_settings_eq.1 next))

/-- A policy keeps the settings it was built with. -/
theorem settings_of_le
    (ordered : first ≤ last)
    (held : (worldAt calls first).policies.Holds policy) :
    ((worldAt calls last).policies.get policy).settings =
      ((worldAt calls first).policies.get policy).settings := by
  suffices kept : (worldAt calls last).policies.Holds policy ∧
      ((worldAt calls last).policies.get policy).settings =
        ((worldAt calls first).policies.get policy).settings from kept.2
  refine stateAt_of_le
    (motive := fun world : World => world.policies.Holds policy ∧
      (world.policies.get policy).settings = ((worldAt calls first).policies.get policy).settings)
    ordered ⟨held, rfl⟩ ?_
  rintro _ call _ _ _ ⟨stillHeld, same⟩
  exact ⟨holds_perform stillHeld, (settings_and_factory_perform stillHeld).1.trans same⟩

theorem sameAt_iff_of_le
    (ordered : first ≤ last)
    (built : BothBuiltAt calls first policy other) :
    SameAt calls last policy other ↔ SameAt calls first policy other := by
  rw [sameAt_iff_settings_eq, sameAt_iff_settings_eq, settings_of_le ordered built.1,
    settings_of_le ordered built.2]

/-- The comparison has the same outcome before and after. -/
theorem sameAt_iff_of_built
    (builtFirst : BothBuiltAt calls first policy other)
    (builtLast : BothBuiltAt calls last policy other) :
    SameAt calls last policy other ↔ SameAt calls first policy other :=
  (Nat.le_total first last).elim
    (fun ordered => sameAt_iff_of_le ordered builtFirst)
    fun ordered => (sameAt_iff_of_le ordered builtLast).symm

theorem entryRefs_eq_of_sameAt
    (same : SameAt calls position policy other) :
    ((worldAt calls position).policies.get policy).settings.entryRefs =
      ((worldAt calls position).policies.get other).settings.entryRefs :=
  congrArg Settings.entryRefs (sameAt_iff_settings_eq.1 same)

end Comparisons

/-- What the comparison of policies says about them along a run. -/
structure ComparesConfigurations (calls : List Call) : Prop where
  /-- Policies compare equal if and only if they agree on all four of their values. -/
  compares : ∀ position policy other,
    SameAt calls position policy other ↔
      let one := ((worldAt calls position).policies.get policy).settings
      let two := ((worldAt calls position).policies.get other).settings
      one.cleartextPermitted = two.cleartextPermitted ∧ one.hstsEnforced = two.hstsEnforced ∧
        one.pins = two.pins ∧ one.entryRefs = two.entryRefs
  equivalence : ∀ position, Equivalence (SameAt calls position)
  /-- Whatever the calls in between are, the outcome is the same from the moment on at which
  both policies have been built. -/
  stable : ∀ first last policy other, first ≤ last → BothBuiltAt calls first policy other →
    (SameAt calls last policy other ↔ SameAt calls first policy other)
  /-- Policies that compare equal at one time stand in for each other at any time at which
  neither has anchors cached. -/
  interchangeable : ∀ compared moment policy other,
    BothBuiltAt calls compared policy other → SameAt calls compared policy other →
    BothBuiltAt calls moment policy other → BothUnfilledAt calls moment policy other →
      (worldAt calls moment).Interchangeable policy other

/-- The comparison of configurations is an equivalence that never changes, and policies that
compare equal can stand in for each other. -/
theorem comparesConfigurations (calls : List Call) :
    ComparesConfigurations calls where
  compares _ _ _ := Policy.sameConfiguration_iff
  equivalence := equivalence_sameAt calls
  stable _ _ _ _ := sameAt_iff_of_le
  interchangeable := by
    rintro compared moment policy other builtThen same builtNow ⟨unfilled, otherUnfilled⟩
    have sameNow : SameAt calls moment policy other :=
      (sameAt_iff_of_built builtThen builtNow).2 same
    exact interchangeable_of_entryRefs_eq unfilled otherUnfilled (entryRefs_eq_of_sameAt sameNow)

/-- Two policies with the same reference are given the same certificates, and the same error
once their source fails. One with the other flag differs from them. -/
theorem comparesConfigurations_of_failing_source :
    let source : SourceId := ⟨0⟩
    let first : PolicyId := ⟨0⟩
    let second : PolicyId := ⟨1⟩
    let flagged : PolicyId := ⟨2⟩
    let fail : Source.Change :=
      { apply := fun source =>
          match source.store with
          | .counting store => { source with store := .counting { store with failing := true } }
          | _ => source
        queryCount?_apply := by
          rintro ⟨_, store⟩
          cases store <;> rfl }
    let build (name : String) (flag : Bool) : Call :=
      .buildChain name [Builder.blank.addRef ⟨source, flag⟩] none
    let calls : List Call :=
      [.addSource ⟨"store", .counting { certificates := [namelessCertificate] }⟩,
        build "first" false, build "second" false, build "flagged" true,
        .changeSource source fail, .trustAnchors first]
    SameAt calls 5 first second ∧ ¬SameAt calls 5 first flagged ∧
      ((worldAt calls 4).trustAnchors second).1.map Snapshot.anchors =
        .ok (AnchorSet.ofList [⟨namelessCertificate, false⟩]) ∧
      ((worldAt calls 5).trustAnchors second).1.map Snapshot.anchors =
        .error (.certificateSource "store" "store unavailable") := by
  intro source first second flagged fail build calls
  have compared := comparesConfigurations calls
  have built : BothBuiltAt calls 4 first second := ⟨by decide, by decide⟩
  have stillBuilt : BothBuiltAt calls 5 first second := ⟨by decide, by decide⟩
  have same : SameAt calls 4 first second :=
    (compared.compares 4 first second).2 ⟨rfl, rfl, rfl, rfl⟩
  have supplied := compared.interchangeable 4 4 first second built same built ⟨rfl, rfl⟩
  have failed := compared.interchangeable 4 5 first second built same stillBuilt ⟨rfl, rfl⟩
  refine ⟨(compared.stable 4 5 first second (by decide) built).2 same, ?_, ?_, ?_⟩
  · intro sameFlags
    obtain ⟨-, -, -, sameRefs⟩ := (compared.compares 5 first flagged).1 sameFlags
    exact absurd sameRefs (by decide)
  · rw [← supplied.given]
    rfl
  · rw [← failed.given]
    rfl

end World
end TrustPolicy
