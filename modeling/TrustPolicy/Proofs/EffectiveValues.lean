import TrustPolicy.Proofs.Resolution

/-!
# Effective values

A builder of a set has four effective values. Each is the one of the first
builder in its lineage that sets a value of its own, or a fixed one if no builder
there does. So what changes along a lineage tells which effective values change.
-/

namespace TrustPolicy

/-- The four values of a builder. -/
inductive Field
  | cleartext
  | hsts
  | pins
  | entryRefs
  deriving DecidableEq

namespace Field

/-- The type of a value. -/
def Value : Field → Type
  | .cleartext => Bool
  | .hsts => Bool
  | .pins => PinSet
  | .entryRefs => List EntryRef

/-- The value that a builder sets, if it sets one. -/
def setBy : (field : Field) → Builder → Option field.Value
  | .cleartext => Builder.cleartextPermitted
  | .hsts => Builder.hstsEnforced
  | .pins => Builder.pinSet
  | .entryRefs => Builder.entryRefs

/-- The value where no builder sets one. -/
def fallback : (field : Field) → field.Value
  | .cleartext => true
  | .hsts => false
  | .pins => PinSet.empty
  | .entryRefs => []

end Field

namespace BuilderSet

/-- The answer of a set to the question for an effective value of a builder. -/
def effective
    (set : BuilderSet)
    (id : BuilderId) : (field : Field) → Except PolicyError field.Value
  | .cleartext => set.cleartext id
  | .hsts => set.hsts id
  | .pins => set.pins id
  | .entryRefs => set.entryRefs id

/-- The value that a builder of a set sets by itself, if it sets one. -/
def ownValue
    (set : BuilderSet)
    (field : Field)
    (id : BuilderId) : Option field.Value :=
  (set.get id).toOption.bind field.setBy

section Effective

variable
  {set next : BuilderSet}
  {id member : BuilderId}
  {path below above rest : List BuilderId}
  {field : Field}

theorem effective_eq_resolved :
    set.effective id field = set.resolved id (Settings.resolve field.setBy field.fallback) := by
  cases field <;> rfl

/-- The effective value of a builder is the first one that its lineage sets. -/
theorem IsForest.effective_eq
    (forest : set.IsForest)
    (lineage : set.Lineage id path) :
    set.effective id field =
      .ok ((path.findSome? (set.ownValue field)).getD field.fallback) := by
  have owned : set.Owns id := lineage.owns (List.mem_of_head? lineage.head?_eq)
  have levels : (⟨set, some id⟩ : Chain).builders.map .ok = path.map set.get :=
    (forest.walksAlong lineage).chain_builders
  have found : (⟨set, some id⟩ : Chain).builders.findSome? field.setBy =
      path.findSome? (set.ownValue field) := by
    calc (⟨set, some id⟩ : Chain).builders.findSome? field.setBy
        = ((⟨set, some id⟩ : Chain).builders.map .ok).findSome?
            fun level : Except PolicyError Builder => level.toOption.bind field.setBy := by
          rw [List.findSome?_map]
          rfl
      _ = path.findSome? (set.ownValue field) := by
          rw [levels, List.findSome?_map]
          rfl
  rw [effective_eq_resolved, resolved_of_owns owned, Settings.resolve, found]

/-! ## Parts of lineages -/

/-- A builder has one lineage. -/
theorem Lineage.eq_of_lineage
    (lineage : set.Lineage id path)
    (other : set.Lineage id rest) :
    path = rest := by
  induction lineage generalizing rest with
  | root unlinked =>
      cases other with
      | root _ => rfl
      | child link _ => exact absurd (unlinked.symm.trans link) (by simp)
  | child link _ inductionHypothesis =>
      cases other with
      | root unlinked => exact absurd (unlinked.symm.trans link) (by simp)
      | child otherLink otherAbove =>
          obtain rfl := Option.some_inj.1 (Except.ok.inj (link.symm.trans otherLink))
          rw [inductionHypothesis otherAbove]

/-- A lineage that goes on does so at the parent. -/
theorem Lineage.tail
    (lineage : set.Lineage id (member :: rest))
    (more : rest ≠ []) :
    ∃ parent, set.parent member = .ok (some parent) ∧ set.Lineage parent rest := by
  cases lineage with
  | root _ => exact absurd rfl more
  | child link above => exact ⟨_, link, above⟩

/-- The part of a lineage from a member on is the lineage of the member. -/
theorem Lineage.of_append
    (lineage : set.Lineage id (below ++ member :: above)) :
    set.Lineage member (member :: above) := by
  induction below generalizing id with
  | nil =>
      obtain rfl : member = id := by simpa using lineage.head?_eq
      exact lineage
  | cons first below inductionHypothesis =>
      obtain ⟨_, _, rest⟩ := lineage.tail (by simp)
      exact inductionHypothesis rest

/-- If the links below a member stay and the member gets another lineage, the whole
lineage goes on with that one. -/
theorem Lineage.append
    (lineage : set.Lineage id (below ++ member :: above))
    (sameLinks : ∀ lower ∈ below, next.parent lower = set.parent lower)
    (instead : next.Lineage member rest) :
    next.Lineage id (below ++ rest) := by
  induction below generalizing id with
  | nil =>
      obtain rfl : member = id := by simpa using lineage.head?_eq
      exact instead
  | cons first below inductionHypothesis =>
      obtain ⟨_, link, rest⟩ := lineage.tail (by simp)
      obtain rfl : first = id := by simpa using lineage.head?_eq
      refine .child ((sameLinks _ List.mem_cons_self).trans link) ?_
      exact inductionHypothesis rest fun lower present =>
        sameLinks lower (List.mem_cons_of_mem _ present)

/-- A lineage whose links stay is a lineage after the change. -/
theorem Lineage.of_parent_eq
    (lineage : set.Lineage id path)
    (sameLinks : ∀ member ∈ path, next.parent member = set.parent member) :
    next.Lineage id path := by
  induction lineage with
  | root unlinked => exact .root ((sameLinks _ List.mem_cons_self).trans unlinked)
  | child link _ inductionHypothesis =>
      refine .child ((sameLinks _ List.mem_cons_self).trans link) ?_
      exact inductionHypothesis fun member present =>
        sameLinks member (List.mem_cons_of_mem _ present)

/-- If no builder of a path changes what it sets, the first value on it stays. -/
theorem findSome?_ownValue_congr
    (sameValues : ∀ member ∈ path, next.ownValue field member = set.ownValue field member) :
    path.findSome? (next.ownValue field) = path.findSome? (set.ownValue field) := by
  rw [← Function.id_comp (next.ownValue field), ← List.findSome?_map,
    List.map_congr_left sameValues, List.findSome?_map, Function.id_comp]

/-- If no builder of a lineage changes what it sets, no effective value changes. -/
theorem effective_congr
    (forest : set.IsForest)
    (nextForest : next.IsForest)
    (lineage : set.Lineage id path)
    (nextLineage : next.Lineage id path)
    (sameValues : ∀ member ∈ path, next.ownValue field member = set.ownValue field member) :
    next.effective id field = set.effective id field := by
  rw [nextForest.effective_eq nextLineage, forest.effective_eq lineage,
    findSome?_ownValue_congr sameValues]

end Effective

end BuilderSet
end TrustPolicy
