import TrustPolicy.Proofs.Contributions

/-!
# Reads

A read of a policy's anchors is given the set that is cached, or else the one that its
references contribute now. It changes neither what references contribute nor what any policy
has for settings, so a read after it is given the same as it would have been before.
-/

namespace TrustPolicy
namespace World

/-- The set of anchors that a read of a policy is given: the one that is cached, or else the one
that its references contribute now. -/
def readSet
    (world : World)
    (policy : PolicyId) : Except PolicyError AnchorSet :=
  match (world.policies.get policy).anchors.slot with
  | some snapshot => .ok snapshot.anchors
  | none =>
      (world.contributions (world.policies.get policy).settings.entryRefs).map AnchorSet.ofList

section Reads

variable
  {world before after : World}
  {policy : PolicyId}
  {snapshot : Snapshot}

theorem readSet_of_slot_eq_some
    (cached : (world.policies.get policy).anchors.slot = some snapshot) :
    world.readSet policy = .ok snapshot.anchors := by
  rw [readSet, cached]

theorem readSet_of_slot_eq_none
    (unfilled : (world.policies.get policy).anchors.slot = none) :
    world.readSet policy =
      (world.contributions (world.policies.get policy).settings.entryRefs).map
        AnchorSet.ofList := by
  rw [readSet, unfilled]

theorem map_anchors_trustAnchors
    (world : World)
    (policy : PolicyId) :
    (world.trustAnchors policy).1.map Snapshot.anchors = world.readSet policy := by
  rcases world.trustAnchors_cases policy with
    ⟨snapshot, cached, answer⟩ |
      ⟨unfilled, ⟨anchors, contributes, answer⟩ | ⟨raised, _, fails, answer⟩⟩
  · rw [answer, readSet_of_slot_eq_some cached]
    rfl
  · rw [answer, readSet_of_slot_eq_none unfilled, contributes]
    rfl
  · rw [answer, readSet_of_slot_eq_none unfilled, fails]
    rfl

theorem isOk_trustAnchors :
    (world.trustAnchors policy).1.isOk = (world.readSet policy).isOk := by
  rw [← map_anchors_trustAnchors]
  cases (world.trustAnchors policy).1 <;> rfl

/-! ## Reads after a read -/

theorem contributions_congr
    {entries : List EntryRef}
    (sameCertificates : ∀ source,
      (after.sources.get source).certificates = (before.sources.get source).certificates)
    (sameLabels : ∀ source, after.label source = before.label source) :
    after.contributions entries = before.contributions entries := by
  induction entries with
  | nil => rfl
  | cons entry rest inductionHypothesis =>
      rw [contributions, contributions, sameCertificates, sameLabels, inductionHypothesis]

/-- A read does not change what references contribute. -/
theorem contributions_after_trustAnchors
    (world : World)
    (policy : PolicyId)
    (entries : List EntryRef) :
    (world.trustAnchors policy).2.contributions entries = world.contributions entries := by
  have queried (source : SourceId) : (world.trustAnchors policy).2.sources.get source =
      (world.sources.get source).queriedTimes ((world.readQueries policy).count source) := by
    rw [sources_trustAnchors, get_queryEach]
  refine contributions_congr (fun source => ?_) fun source => ?_
  · rw [queried, Source.certificates_queriedTimes]
  · rw [label, queried, Source.label_queriedTimes, label]

/-- A read does not change the settings of any policy. -/
theorem settings_after_trustAnchors
    (world : World)
    (policy other : PolicyId) :
    ((world.trustAnchors policy).2.policies.get other).settings =
      (world.policies.get other).settings := by
  obtain ⟨_, cell, _, _, _, after⟩ := world.exists_trustAnchors_snd_eq policy
  rw [after]
  dsimp only
  rcases world.policies.get_modify_cases other policy
      (fun current => { current with anchors := cell }) with same | changed
  · rw [same]
  · rw [changed]

/-- A read fills no cell but the one of its policy, and fills it with what it is given. -/
theorem slot_after_trustAnchors
    (world : World)
    (policy other : PolicyId) :
    ((world.trustAnchors policy).2.policies.get other).anchors.slot =
        (world.policies.get other).anchors.slot ∨
      ∃ snapshot, world.readSet other = .ok snapshot.anchors ∧
        ((world.trustAnchors policy).2.policies.get other).anchors.slot = some snapshot := by
  rcases world.trustAnchors_cases policy with
    ⟨_, _, answer⟩ | ⟨unfilled, ⟨anchors, contributes, answer⟩ | ⟨_, _, _, answer⟩⟩
  · rw [answer]
    exact .inl rfl
  · obtain ⟨fill, fills, slot⟩ : ∃ fill : Policy → Policy,
        (world.filled policy anchors).policies = world.policies.modify policy fill ∧
          ∀ current, (fill current).anchors.slot =
            some ⟨world.stamps, AnchorSet.ofList anchors⟩ :=
      ⟨_, by rw [filled, modifyPolicy, report, policies_queryAll], fun _ => rfl⟩
    rw [answer, fills]
    by_cases same : other = policy
    · subst same
      rcases world.policies.get_modify_cases other other fill with unheld | changed
      · exact .inl (by rw [unheld])
      · refine .inr ⟨_, ?_, by rw [changed, slot]⟩
        rw [readSet_of_slot_eq_none unfilled, contributes]
        rfl
    · exact .inl (by rw [Arena.get_modify_of_ne same])
  · obtain ⟨-, samePolicies, -⟩ := trustAnchors_fails (congrArg Prod.fst answer)
    exact .inl (by rw [samePolicies])

/-- A read does not change what any later read is given. -/
theorem readSet_after_trustAnchors
    (world : World)
    (policy other : PolicyId) :
    (world.trustAnchors policy).2.readSet other = world.readSet other := by
  rcases world.slot_after_trustAnchors policy other with unchanged | ⟨snapshot, given, filled⟩
  · rw [readSet, readSet, unchanged, settings_after_trustAnchors, contributions_after_trustAnchors]
  · rw [readSet_of_slot_eq_some filled, given]

end Reads

end World
end TrustPolicy
