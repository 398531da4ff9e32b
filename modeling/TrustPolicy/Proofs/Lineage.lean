import Mathlib.Data.List.Nodup
import Mathlib.Data.List.Range
import Mathlib.Data.Fintype.EquivFin
import Mathlib.Order.WellFounded
import TrustPolicy.Proofs.Links

/-!
# Lineages

A set of builders is a forest if its links stay inside the set and have no cycle.
In a forest every builder has a lineage: the builder itself, its parent, and so
on up to a builder without a parent. A lineage names no builder twice.
-/

namespace TrustPolicy
namespace BuilderSet

/-- The links belong to the builders, stay inside the set, and have no cycle. -/
structure IsForest (set : BuilderSet) : Prop where
  length_parents : set.parents.length = set.builders.length
  owns_link : ∀ {index : Nat} {parent : BuilderId},
    set.parents[index]? = some (some parent) → set.Owns parent
  acyclic : ¬Cyclic set.LinksTo

/-- The identifiers from a builder up to the one above it without a parent. -/
inductive Lineage (set : BuilderSet) : BuilderId → List BuilderId → Prop
  | root {id : BuilderId}
      (unlinked : set.parent id = .ok none) :
      Lineage set id [id]
  | child {id parent : BuilderId} {path : List BuilderId}
      (link : set.parent id = .ok (some parent))
      (above : Lineage set parent path) :
      Lineage set id (id :: path)

section Lineage

variable
  {set : BuilderSet}
  {id member lower upper : BuilderId}
  {path : List BuilderId}

/-- The links of a forest have a position for each of its builders. -/
theorem IsForest.index_lt_length_parents
    (forest : set.IsForest)
    (owned : set.Owns id) :
    id.index < set.parents.length := by
  rw [forest.length_parents]
  exact owned.2

/-- Builders of one set are told apart by their positions. -/
theorem ext_of_owns
    (lowerOwned : set.Owns lower)
    (upperOwned : set.Owns upper)
    (sameIndex : lower.index = upper.index) :
    lower = upper := by
  obtain ⟨lowerSet, lowerIndex⟩ := lower
  obtain ⟨upperSet, upperIndex⟩ := upper
  have sameSet : lowerSet = upperSet := lowerOwned.1.trans upperOwned.1.symm
  simpa [sameSet] using sameIndex

/-- Only builders of the set have an answer to the question for their parent. -/
theorem owns_of_parent_eq_ok
    {found : Option BuilderId}
    (answer : set.parent id = .ok found) :
    set.Owns id := by
  by_contra foreign
  rw [parent_of_not_owns foreign] at answer
  exact absurd answer (by simp)

theorem parentAt_eq_some_iff
    {index : Nat} :
    set.parentAt index = some upper ↔ set.parents[index]? = some (some upper) := by
  rw [parentAt, Option.join_eq_some_iff]

theorem IsForest.owns_upper
    (forest : set.IsForest)
    (link : set.LinksTo lower upper) :
    set.Owns upper :=
  forest.owns_link (parentAt_eq_some_iff.1 (linksTo_iff.1 link).2)

/-! ## Existence -/

/-- A set owns finitely many identifiers, one for each position. -/
instance : Finite {id // set.Owns id} := by
  let position : {id // set.Owns id} → Fin set.size :=
    fun owned => ⟨owned.1.index, owned.2.2⟩
  refine Finite.of_injective position ?_
  intro first second samePosition
  apply Subtype.ext
  exact ext_of_owns first.2 second.2 (congrArg Fin.val samePosition)

/-- There is no endless climb among the finitely many builders of a forest. -/
theorem IsForest.wellFounded_above
    (forest : set.IsForest) :
    WellFounded fun upper lower : {id // set.Owns id} =>
      Relation.TransGen set.LinksTo lower upper := by
  have transitive : IsTrans {id // set.Owns id} fun upper lower =>
      Relation.TransGen set.LinksTo lower upper :=
    ⟨fun _ _ _ first second => second.trans first⟩
  have irreflexive : Std.Irrefl fun upper lower : {id // set.Owns id} =>
      Relation.TransGen set.LinksTo lower upper :=
    ⟨fun owned way => forest.acyclic ⟨owned, way⟩⟩
  exact Finite.wellFounded_of_trans_of_irrefl _

/-- Every builder of a forest has a lineage. -/
theorem IsForest.exists_lineage
    (forest : set.IsForest)
    (owned : set.Owns id) :
    ∃ path, set.Lineage id path := by
  refine forest.wellFounded_above.induction
    (C := fun owned => ∃ path, set.Lineage owned path) ⟨id, owned⟩ ?_
  rintro ⟨lower, lowerOwned⟩ inductionHypothesis
  have answer : set.parent lower = .ok (set.parentAt lower.index) := parent_of_owns lowerOwned
  cases found : set.parentAt lower.index with
  | none =>
      rw [found] at answer
      exact ⟨[lower], .root answer⟩
  | some upper =>
      have link : set.LinksTo lower upper := linksTo_iff.2 ⟨lowerOwned, found⟩
      obtain ⟨path, above⟩ :=
        inductionHypothesis ⟨upper, forest.owns_upper link⟩ (.single link)
      exact ⟨lower :: path, .child link above⟩

/-! ## Members -/

theorem Lineage.head?_eq
    (lineage : set.Lineage id path) :
    path.head? = some id := by
  cases lineage <;> rfl

theorem Lineage.owns
    (lineage : set.Lineage id path)
    (present : member ∈ path) :
    set.Owns member := by
  induction lineage with
  | root unlinked =>
      obtain rfl : member = _ := List.mem_singleton.1 present
      exact owns_of_parent_eq_ok unlinked
  | child link _ inductionHypothesis =>
      rcases List.mem_cons.1 present with rfl | inRest
      · exact owns_of_parent_eq_ok link
      · exact inductionHypothesis inRest

/-- A lineage names exactly the builders that the links lead to. -/
theorem Lineage.mem_iff
    (lineage : set.Lineage id path) :
    member ∈ path ↔ Relation.ReflTransGen set.LinksTo id member := by
  induction lineage with
  | @root id unlinked =>
      rw [List.mem_singleton]
      constructor
      · rintro rfl
        exact .refl
      · intro way
        rcases way.cases_head with same | ⟨upper, link, _⟩
        · exact same.symm
        · exact absurd (unlinked.symm.trans link) (by simp)
  | @child id parent path link _ inductionHypothesis =>
      rw [List.mem_cons, inductionHypothesis]
      constructor
      · rintro (rfl | way)
        · exact .refl
        · exact .head link way
      · intro way
        rcases way.cases_head with same | ⟨upper, otherLink, rest⟩
        · exact .inl same.symm
        · obtain rfl : parent = upper := by simpa using link.symm.trans otherLink
          exact .inr rest

theorem Lineage.nodup
    (lineage : set.Lineage id path)
    (acyclic : ¬Cyclic set.LinksTo) :
    path.Nodup := by
  induction lineage with
  | root _ => exact List.nodup_singleton _
  | @child id _ path link above inductionHypothesis =>
      refine List.nodup_cons.2 ⟨fun repeated => acyclic ⟨id, ?_⟩, inductionHypothesis⟩
      exact .head' link (above.mem_iff.1 repeated)

/-- A list that names no builder of the set twice is no longer than the set is
large. -/
theorem length_le_size
    (distinct : path.Nodup)
    (owned : ∀ member ∈ path, set.Owns member) :
    path.length ≤ set.size := by
  have distinctPositions : (path.map BuilderId.index).Nodup := by
    refine distinct.map_on ?_
    intro first firstIn second secondIn sameIndex
    exact ext_of_owns (owned first firstIn) (owned second secondIn) sameIndex
  have inside : path.map BuilderId.index ⊆ List.range set.size := by
    intro index present
    obtain ⟨member, inPath, rfl⟩ := List.mem_map.1 present
    exact List.mem_range.2 (owned member inPath).2
  simpa using (distinctPositions.subperm inside).length_le

theorem Lineage.length_le_size
    (lineage : set.Lineage id path)
    (acyclic : ¬Cyclic set.LinksTo) :
    path.length ≤ set.size :=
  BuilderSet.length_le_size (lineage.nodup acyclic) fun _ => lineage.owns

/-- The last builder of a lineage is the only one in it without a parent. -/
theorem Lineage.parent_eq_none_iff
    (lineage : set.Lineage id path)
    (acyclic : ¬Cyclic set.LinksTo)
    (present : member ∈ path) :
    set.parent member = .ok none ↔ path.getLast? = some member := by
  induction lineage with
  | root unlinked =>
      obtain rfl : member = _ := List.mem_singleton.1 present
      simpa using unlinked
  | @child id parent path link above inductionHypothesis =>
      have nonempty : path ≠ [] := by
        rintro rfl
        cases above
      rw [List.getLast?_cons_of_ne_nil nonempty]
      rcases List.mem_cons.1 present with rfl | inRest
      · have fresh : member ∉ path :=
          (List.nodup_cons.1 ((Lineage.child link above).nodup acyclic)).1
        constructor
        · intro unlinked
          exact absurd (link.symm.trans unlinked) (by simp)
        · intro last
          exact absurd (List.mem_of_getLast? last) fresh
      · exact inductionHypothesis inRest

end Lineage

end BuilderSet
end TrustPolicy
