import TrustPolicy.World.Anchors

/-!
# Strong and weak references

A weak reference to a living policy is upgraded to a strong one, which is dropped again
when it is not needed any longer. Upgrading and dropping leaves a world as it was, and
nothing that happens in between depends on how many strong references there are.
-/

namespace TrustPolicy
namespace World

section References

variable
  {world : World}
  {policy other : PolicyId}
  {policies : List PolicyId}

/-! ## Living policies -/

theorem isAlive_iff :
    world.isAlive policy = true ↔ 0 < world.strongCounts.get policy := by
  simp [isAlive]

theorem strongCounts_holds_of_isAlive
    (alive : world.isAlive policy = true) :
    world.strongCounts.Holds policy := by
  refine Decidable.of_not_not fun unheld => ?_
  have none : world.strongCounts.get policy = 0 := Arena.get_of_not_holds unheld
  exact Nat.ne_of_gt (isAlive_iff.1 alive) none

/-- One more reference to a living policy brings no policy to life. -/
theorem isAlive_retain
    (alive : world.isAlive policy = true) :
    (world.retain policy).isAlive = world.isAlive := by
  funext other
  by_cases same : other = policy
  · subst same
    have one : (world.strongCounts.modify other (· + 1)).get other =
        world.strongCounts.get other + 1 :=
      Arena.get_modify_self (strongCounts_holds_of_isAlive alive)
    rw [alive, isAlive_iff, retain, one]
    exact Nat.succ_pos _
  · rw [isAlive, retain, Arena.get_modify_of_ne same, ← isAlive]

/-! ## Upgrading and dropping -/

theorem upgrade_of_alive
    (alive : world.isAlive policy = true) :
    world.upgrade policy = (some policy, world.retain policy) :=
  if_pos alive

theorem upgrade_of_dead
    (dead : world.isAlive policy = false) :
    world.upgrade policy = (none, world) := by
  rw [upgrade, dead]
  rfl

@[simp] theorem isSome_upgrade : (world.upgrade policy).1.isSome = world.isAlive policy := by
  cases alive : world.isAlive policy with
  | true => rw [upgrade_of_alive alive, Option.isSome_some]
  | false => rw [upgrade_of_dead alive, Option.isSome_none]

/-- A reference that is dropped as soon as it is made leaves no trace. -/
@[simp] theorem release_retain : (world.retain policy).release policy = world := by
  have unchanged : (world.strongCounts.modify policy (· + 1)).modify policy (· - 1) =
      world.strongCounts := by
    rw [Arena.modify_modify, Arena.modify_eq_self]
    rfl
  rw [release, retain, unchanged]

theorem retain_retain :
    (world.retain policy).retain other = (world.retain other).retain policy := by
  by_cases same : policy = other
  · rw [same]
  · rw [retain, retain, retain, retain, Arena.modify_comm same]

/-- All weak references to living policies are upgraded, and no other ones. -/
theorem upgradeAll_eq :
    world.upgradeAll policies =
      (policies.filter world.isAlive, (policies.filter world.isAlive).foldl retain world) := by
  induction policies generalizing world with
  | nil => rfl
  | cons policy rest inductionHypothesis =>
      rw [upgradeAll]
      cases alive : world.isAlive policy with
      | true =>
          rw [upgrade_of_alive alive, List.filter_cons_of_pos alive, List.foldl_cons]
          dsimp only
          rw [inductionHypothesis, isAlive_retain alive]
      | false =>
          rw [upgrade_of_dead alive, List.filter_cons_of_neg (by simp [alive])]
          exact inductionHypothesis

theorem foldl_retain_retain :
    policies.foldl retain (world.retain policy) = (policies.foldl retain world).retain policy := by
  induction policies generalizing world with
  | nil => rfl
  | cons other rest inductionHypothesis =>
      rw [List.foldl_cons, List.foldl_cons, retain_retain, inductionHypothesis]

/-- References that are made in order and dropped in this order leave no trace. -/
theorem releaseAll_foldl_retain : (policies.foldl retain world).releaseAll policies = world := by
  induction policies with
  | nil => rfl
  | cons policy rest inductionHypothesis =>
      rw [List.foldl_cons, foldl_retain_retain, releaseAll, List.foldl_cons, release_retain]
      exact inductionHypothesis

/-- What goes on in the same way with one more reference to any policy goes on in the same
way while policies are held. -/
theorem releaseAll_of_retain_comm
    (work : World → World)
    (comm : ∀ world policy, (work world).retain policy = work (world.retain policy)) :
    (work (policies.foldl retain world)).releaseAll policies = work world := by
  rw [← List.foldl_hom work comm, releaseAll_foldl_retain]

/-! ## Reads and invalidations -/

theorem queryRef_retain
    (world : World)
    (entry : EntryRef) :
    (world.retain other).queryRef entry =
      ((world.queryRef entry).1, (world.queryRef entry).2.retain other) := by
  have answers : ((world.retain other).sources.get entry.source).certificates =
      (world.sources.get entry.source).certificates := rfl
  rw [queryRef, querySource, answers, queryRef, querySource]
  cases (world.sources.get entry.source).certificates <;> rfl

theorem aggregate_retain
    {entries : List EntryRef} :
    aggregate entries (world.retain other) =
      ((aggregate entries world).1, (aggregate entries world).2.retain other) := by
  have gathers : (world.retain other).gather AnchorSet.empty entries =
      ((world.gather AnchorSet.empty entries).1,
        (world.gather AnchorSet.empty entries).2.retain other) :=
    gatherBy_image queryRef_retain (fun _ _ _ => rfl) world AnchorSet.empty entries
  rw [aggregate, gathers, aggregate]
  rcases world.gather AnchorSet.empty entries with ⟨_ | _, _⟩ <;> rfl

/-- A read of anchors goes on in the same way with one more reference to a policy. -/
theorem trustAnchors_retain :
    (world.retain other).trustAnchors policy =
      ((world.trustAnchors policy).1, (world.trustAnchors policy).2.retain other) := by
  have same : (world.retain other).policies = world.policies := rfl
  rw [trustAnchors, same, trustAnchors]
  cases cached : (world.policies.get policy).anchors.slot with
  | some snapshot =>
      rw [CacheCell.getOrTryInit, CacheCell.getOrTryInit, cached]
      rfl
  | none =>
      rw [CacheCell.getOrTryInit, CacheCell.getOrTryInit, cached, aggregate_retain]
      rcases aggregate (world.policies.get policy).settings.entryRefs world with ⟨_ | _, _⟩ <;> rfl

/-- So does an invalidation. -/
theorem invalidateAnchors_retain
    (world : World)
    (policy : PolicyId) :
    (world.retain other).invalidateAnchors policy =
      (world.invalidateAnchors policy).retain other := by
  have same : (world.retain other).policies = world.policies := rfl
  rw [invalidateAnchors, same, invalidateAnchors]
  dsimp only [CacheCell.invalidate]
  split <;> rfl

end References

end World
end TrustPolicy
