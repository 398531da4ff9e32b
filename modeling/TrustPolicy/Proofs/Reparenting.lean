import TrustPolicy.Proofs.Forest

/-!
# Reparenting

A builder may be linked to a new parent exactly if the new link, put in place of
its old one, closes no cycle. The link is then the only thing that changes, and
a refused link changes nothing.
-/

namespace TrustPolicy
namespace BuilderSet

section Reparenting

variable
  {set : BuilderSet}
  {id child other : BuilderId}
  {parent : Option BuilderId}
  {error : PolicyError}

/-- A link to a builder without a parent closes no cycle, unless it is a link of
that builder itself. -/
theorem IsForest.not_cyclic_of_root
    (forest : set.IsForest)
    (unlinked : set.parent id = .ok none)
    (different : id ≠ child) :
    ¬Cyclic (Relinked set.LinksTo child (some id)) := by
  rw [cyclic_relinked_iff forest.acyclic]
  rintro ⟨upper, same, way⟩
  obtain rfl : id = upper := Option.some.inj same
  rcases way.cases_head with same | ⟨upper, link, _⟩
  · exact different same
  · exact absurd (unlinked.symm.trans link) (by simp)

theorem IsForest.not_cyclic_of_none
    (forest : set.IsForest) :
    ¬Cyclic (Relinked set.LinksTo child none) := by
  rw [cyclic_relinked_iff forest.acyclic]
  rintro ⟨upper, same, _⟩
  exact absurd same (by simp)

/-- The link that a builder has already closes no cycle. -/
theorem IsForest.not_cyclic_of_same
    (forest : set.IsForest)
    (answer : set.parent child = .ok parent) :
    ¬Cyclic (Relinked set.LinksTo child parent) := by
  rw [cyclic_relinked_iff forest.acyclic]
  rintro ⟨upper, rfl, way⟩
  exact forest.acyclic ⟨child, .head' answer way⟩

/-- A link of a builder to itself closes a cycle. -/
theorem cyclic_self
    {links : BuilderId → BuilderId → Prop} :
    Cyclic (Relinked links child (some child)) :=
  ⟨child, .single (relinked_self.2 rfl)⟩

/-- A refused link changes nothing. -/
theorem IsForest.setParent_snd_of_error
    (forest : set.IsForest)
    (refused : (set.setParent child parent).1 = .error error) :
    (set.setParent child parent).2 = set := by
  rcases forest.setParent_cases child parent with ⟨_, same⟩ | ⟨_, _, _, accepted⟩
  · rw [same]
  · rw [accepted] at refused
    exact absurd refused (by simp)

/-- An accepted link is one of a builder of the set, and takes the place of its old
link. -/
theorem IsForest.setParent_snd_of_ok
    (forest : set.IsForest)
    (accepted : (set.setParent child parent).1 = .ok ()) :
    set.Owns child ∧ (set.setParent child parent).2 = set.relink child.index parent := by
  rcases forest.setParent_cases child parent with ⟨_, refused⟩ | ⟨owned, _, _, linked⟩
  · rw [refused] at accepted
    exact absurd accepted (by simp)
  · exact ⟨owned, by rw [linked]⟩

theorem IsForest.parent_relink_self
    (forest : set.IsForest)
    (owned : set.Owns child) :
    (set.relink child.index parent).parent child = .ok parent := by
  have inside : child.index < set.parents.length := forest.index_lt_length_parents owned
  rw [parent_of_owns (owns_relink.2 owned), parentAt, BuilderSet.relink,
    List.getElem?_set_self inside, Option.join_some]

theorem parent_relink_of_ne
    (owned : set.Owns child)
    (different : other ≠ child) :
    (set.relink child.index parent).parent other = set.parent other := by
  by_cases otherOwned : set.Owns other
  · have differentIndex : child.index ≠ other.index := by
      intro sameIndex
      exact different (ext_of_owns otherOwned owned sameIndex.symm)
    rw [parent_of_owns (owns_relink.2 otherOwned), parent_of_owns otherOwned, parentAt, parentAt,
      relink, List.getElem?_set_ne differentIndex]
  · rw [parent_of_not_owns (mt owns_relink.1 otherOwned), parent_of_not_owns otherOwned]

theorem get_relink
    {index : Nat} :
    (set.relink index parent).get id = set.get id := rfl

end Reparenting

/-- The exact answers to a request for a link, and its exact effect. Foreign
identifiers are refused, the child first. Between builders of the set the link is
refused exactly if it would close a cycle in place of the child's old link; so
no link, the link that the child has, and a link to another builder without a
parent are accepted, and a link of the child to itself is refused. -/
theorem Reachable.setParent_exact
    {set : BuilderSet}
    (reachable : set.Reachable)
    (child : BuilderId)
    (parent : Option BuilderId) :
    (¬set.Owns child →
      (set.setParent child parent).1 = .error (.unknownBuilder child)) ∧
    (∀ id, set.Owns child → parent = some id → ¬set.Owns id →
      (set.setParent child parent).1 = .error (.unknownBuilder id)) ∧
    (set.Owns child → (∀ id, parent = some id → set.Owns id) →
      ((set.setParent child parent).1 = .error .parentCycle ↔
        Cyclic (Relinked set.LinksTo child parent)) ∧
      ((set.setParent child parent).1 = .ok () ↔
        ¬Cyclic (Relinked set.LinksTo child parent)) ∧
      (parent = some child → (set.setParent child parent).1 = .error .parentCycle) ∧
      (parent = none → (set.setParent child parent).1 = .ok ()) ∧
      (set.parent child = .ok parent → (set.setParent child parent).1 = .ok ()) ∧
      (∀ id, parent = some id → id ≠ child → set.parent id = .ok none →
        (set.setParent child parent).1 = .ok ())) ∧
    ((set.setParent child parent).1 = .ok () →
      (set.setParent child parent).2 = set.relink child.index parent ∧
      (set.setParent child parent).2.parent child = .ok parent ∧
      (∀ other, other ≠ child →
        (set.setParent child parent).2.parent other = set.parent other) ∧
      ∀ id, (set.setParent child parent).2.get id = set.get id) ∧
    (∀ error, (set.setParent child parent).1 = .error error →
      (set.setParent child parent).2 = set) := by
  have forest : set.IsForest := reachable.isForest
  refine ⟨?_, ?_, ?_, ?_, fun _ => forest.setParent_snd_of_error⟩
  · intro foreign
    rw [setParent_of_not_owns foreign]
  · rintro id owned rfl foreign
    rw [setParent_of_not_owns_parent owned foreign]
  · intro owned parentOwned
    have refused_of_cyclic (cyclic : Cyclic (Relinked set.LinksTo child parent)) :
        (set.setParent child parent).1 = .error .parentCycle := by
      rw [forest.setParent_of_cyclic owned parentOwned cyclic]
    have accepted_of_acyclic (acyclic : ¬Cyclic (Relinked set.LinksTo child parent)) :
        (set.setParent child parent).1 = .ok () := by
      rw [forest.setParent_of_acyclic owned parentOwned acyclic]
    refine ⟨⟨?_, refused_of_cyclic⟩, ⟨?_, accepted_of_acyclic⟩, ?_, ?_, ?_, ?_⟩
    · intro refused
      by_contra acyclic
      exact absurd ((accepted_of_acyclic acyclic).symm.trans refused) (by simp)
    · intro accepted cyclic
      exact absurd ((refused_of_cyclic cyclic).symm.trans accepted) (by simp)
    · rintro rfl
      exact refused_of_cyclic cyclic_self
    · rintro rfl
      exact accepted_of_acyclic forest.not_cyclic_of_none
    · intro answer
      exact accepted_of_acyclic (forest.not_cyclic_of_same answer)
    · rintro id rfl different unlinked
      exact accepted_of_acyclic (forest.not_cyclic_of_root unlinked different)
  · intro accepted
    obtain ⟨owned, linked⟩ := forest.setParent_snd_of_ok accepted
    rw [linked]
    exact ⟨rfl, forest.parent_relink_self owned,
      fun _ different => parent_relink_of_ne owned different, fun _ => get_relink⟩

/-- The top of a chain of three builders, which may not go below the bottom before
the middle was detached from it. -/
theorem setParent_exact_in_chain :
    let set := (ofNumber 7).applyAll
      [.insert {}, .insert {}, .insert {}, .setParent ⟨7, 0⟩ (some ⟨7, 1⟩),
        .setParent ⟨7, 1⟩ (some ⟨7, 2⟩)]
    set.Reachable ∧
      (set.setParent ⟨7, 2⟩ (some ⟨7, 0⟩)).1 = .error .parentCycle ∧
      ((set.setParent ⟨7, 1⟩ none).2.setParent ⟨7, 2⟩ (some ⟨7, 0⟩)).1 = .ok () ∧
      Cyclic (Relinked set.LinksTo ⟨7, 2⟩ (some ⟨7, 0⟩)) := by
  intro set
  have reachable : set.Reachable := ⟨7, _, rfl⟩
  have owned : set.Owns ⟨7, 2⟩ := by decide
  have parentOwned : ∀ id, some (⟨7, 0⟩ : BuilderId) = some id → set.Owns id := by
    rintro id ⟨⟩
    decide
  have refused : (set.setParent ⟨7, 2⟩ (some ⟨7, 0⟩)).1 = .error .parentCycle := by decide
  have exact_answers := reachable.setParent_exact ⟨7, 2⟩ (some ⟨7, 0⟩)
  have cyclic := (exact_answers.2.2.1 owned parentOwned).1.1 refused
  exact ⟨reachable, refused, by decide, cyclic⟩

end BuilderSet
end TrustPolicy
