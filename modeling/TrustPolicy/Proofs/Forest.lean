import TrustPolicy.Proofs.Walks

/-!
# Calls on sets of builders

Builders are added, changed, and linked by calls, each of which may be refused.
Whatever calls are made on a new set, in whatever order, the set stays a forest.
So every walk along its links visits distinct builders and ends at one without a
parent.
-/

namespace TrustPolicy
namespace BuilderSet

/-- A call that may change a set. The function of an update may break off. -/
inductive Call
  | insert (builder : Builder)
  | update (id : BuilderId) (change : Builder → Except Unit Builder)
  | setParent (child : BuilderId) (parent : Option BuilderId)

/-- The set after a call, whether it was refused or not. -/
def apply (set : BuilderSet) : Call → BuilderSet
  | .insert builder => set.insert builder
  | .update id change => (set.update id change).2
  | .setParent child parent => (set.setParent child parent).2

/-- The set after calls in order. -/
def applyAll
    (set : BuilderSet)
    (calls : List Call) : BuilderSet :=
  calls.foldl apply set

/-- Whether some calls lead from a new set to this one. -/
def Reachable (set : BuilderSet) : Prop :=
  ∃ number calls, (ofNumber number).applyAll calls = set

section Calls

variable
  {set : BuilderSet}
  {id child lower upper : BuilderId}
  {parent : Option BuilderId}
  {builder : Builder}
  {index : Nat}
  {error : PolicyError}

theorem isForest_ofNumber (number : Nat) : (ofNumber number).IsForest where
  length_parents := rfl
  owns_link := by
    intro index parent link
    simp [ofNumber] at link
  acyclic := by
    rintro ⟨id, way⟩
    obtain ⟨upper, link, _⟩ := Relation.TransGen.head'_iff.1 way
    have owned : (ofNumber number).Owns id := (linksTo_iff.1 link).1
    exact Nat.not_lt_zero _ owned.2

/-! ## Insertion -/

theorem owns_insert
    (owned : set.Owns id) :
    (set.insert builder).Owns id :=
  ⟨owned.1, by simpa [size, insert] using Nat.lt_succ_of_lt owned.2⟩

/-- A new builder comes without links to and from it. -/
theorem IsForest.linksTo_insert
    (forest : set.IsForest) :
    (set.insert builder).LinksTo = set.LinksTo := by
  ext lower upper
  rw [linksTo_iff, linksTo_iff, parentAt_eq_some_iff, parentAt_eq_some_iff]
  constructor
  · rintro ⟨owned, link⟩
    have inside : lower.index < set.parents.length := by
      by_contra outside
      simp only [insert, List.getElem?_append, outside, if_false] at link
      exact absurd (List.mem_of_getElem? link) (by simp)
    refine ⟨⟨owned.1, ?_⟩, ?_⟩
    · rwa [size, ← forest.length_parents]
    · rwa [insert, List.getElem?_append_left inside] at link
  · rintro ⟨owned, link⟩
    have inside : lower.index < set.parents.length := (List.getElem?_eq_some_iff.1 link).1
    exact ⟨owns_insert owned, by rwa [insert, List.getElem?_append_left inside]⟩

theorem IsForest.insert
    (forest : set.IsForest) :
    (set.insert builder).IsForest where
  length_parents := by simp [BuilderSet.insert, forest.length_parents]
  owns_link := by
    intro index parent link
    have present : some parent ∈ set.parents := by
      simpa [BuilderSet.insert] using List.mem_of_getElem? link
    obtain ⟨oldIndex, oldLink⟩ := List.mem_iff_getElem?.1 present
    exact owns_insert (forest.owns_link oldLink)
  acyclic := by
    rw [forest.linksTo_insert]
    exact forest.acyclic

/-! ## Updates -/

theorem owns_replace : (set.replace index builder).Owns id ↔ set.Owns id := by
  simp [Owns, size, replace]

theorem linksTo_replace : (set.replace index builder).LinksTo = set.LinksTo := by
  ext lower upper
  rw [linksTo_iff, linksTo_iff, owns_replace]
  rfl

theorem IsForest.replace
    (forest : set.IsForest) :
    (set.replace index builder).IsForest where
  length_parents := by simpa [BuilderSet.replace] using forest.length_parents
  owns_link := fun link => owns_replace.2 (forest.owns_link link)
  acyclic := by
    rw [linksTo_replace]
    exact forest.acyclic

theorem update_of_not_owns
    {change : Builder → Except ε Builder}
    (foreign : ¬set.Owns id) :
    set.update id change = (.error (.unknownBuilder id), set) := by
  rw [update, indexOf_of_not_owns foreign]

theorem owns_of_get
    (holds : set.get id = .ok builder) :
    set.Owns id := by
  by_contra foreign
  rw [get, indexOf_of_not_owns foreign] at holds
  exact absurd holds (by simp)

/-- An update of a builder that the set owns stores what the function makes of
it, or changes nothing if the function breaks off. -/
theorem update_of_get
    {change : Builder → Except ε Builder}
    (holds : set.get id = .ok builder) :
    set.update id change =
      match change builder with
      | .error cause => (.ok (.error cause), set)
      | .ok changed => (.ok (.ok ()), set.replace id.index changed) := by
  have owned : set.Owns id := owns_of_get holds
  have found : set.builders[id.index]? = some builder := by
    rw [get_of_owns owned, Except.ok.injEq] at holds
    rw [← holds]
    exact List.getElem?_eq_getElem owned.2
  cases outcome : change builder with
  | error cause => simp only [update, indexOf_of_owns owned, found, outcome]
  | ok changed => simp only [update, indexOf_of_owns owned, found, outcome]

/-- An update that is refused or broken off changes nothing. -/
theorem update_of_ne_ok
    {change : Builder → Except ε Builder}
    (refused : (set.update id change).1 ≠ .ok (.ok ())) :
    (set.update id change).2 = set := by
  rw [update] at refused ⊢
  cases found : set.indexOf id with
  | error unknown => rfl
  | ok index =>
      simp only [found] at refused ⊢
      cases stored : set.builders[index]? with
      | none => rfl
      | some builder =>
          simp only [stored] at refused ⊢
          cases changed : change builder with
          | error cause => rfl
          | ok result => exact absurd (by simp [changed]) refused

theorem IsForest.update
    {change : Builder → Except ε Builder}
    (forest : set.IsForest) :
    (set.update id change).2.IsForest := by
  by_cases owned : set.Owns id
  · rw [update_of_get (get_of_owns owned)]
    split
    · exact forest
    · exact forest.replace
  · rw [update_of_not_owns owned]
    exact forest

/-! ## Links -/

theorem owns_relink : (set.relink index parent).Owns id ↔ set.Owns id := Iff.rfl

/-- A new link of a child takes the place of its old link and of no other. -/
theorem IsForest.linksTo_relink
    (forest : set.IsForest)
    (owned : set.Owns child) :
    (set.relink child.index parent).LinksTo = Relinked set.LinksTo child parent := by
  have inside : child.index < set.parents.length := forest.index_lt_length_parents owned
  ext lower upper
  rw [linksTo_iff, owns_relink, parentAt_eq_some_iff, relink, List.getElem?_set]
  by_cases same : lower = child
  · subst same
    simp [relinked_self, owned, inside]
  · rw [relinked_of_ne same, linksTo_iff, parentAt_eq_some_iff]
    refine and_congr_right fun lowerOwned => ?_
    have different : child.index ≠ lower.index := by
      intro sameIndex
      exact same (ext_of_owns lowerOwned owned sameIndex.symm)
    rw [if_neg different]

theorem IsForest.relink
    (forest : set.IsForest)
    (owned : set.Owns child)
    (parentOwned : ∀ id, parent = some id → set.Owns id)
    (acyclic : ¬Cyclic (Relinked set.LinksTo child parent)) :
    (set.relink child.index parent).IsForest where
  length_parents := by simpa [BuilderSet.relink] using forest.length_parents
  owns_link := by
    intro index found link
    rw [owns_relink]
    rcases List.mem_or_eq_of_mem_set (List.mem_of_getElem? link) with present | same
    · obtain ⟨oldIndex, oldLink⟩ := List.mem_iff_getElem?.1 present
      exact forest.owns_link oldLink
    · exact parentOwned found same.symm
  acyclic := by
    rw [forest.linksTo_relink owned]
    exact acyclic

theorem setParent_of_not_owns
    (foreign : ¬set.Owns child) :
    set.setParent child parent = (.error (.unknownBuilder child), set) := by
  rw [setParent, indexOf_of_not_owns foreign]

theorem setParent_of_not_owns_parent
    (owned : set.Owns child)
    (foreign : ¬set.Owns id) :
    set.setParent child (some id) = (.error (.unknownBuilder id), set) := by
  rw [setParent, indexOf_of_owns owned, checkParent, indexOf_of_not_owns foreign]

/-- A refused link changes nothing, whatever the links of the set are. -/
theorem setParent_of_error
    (refused : (set.setParent child parent).1 = .error error) :
    (set.setParent child parent).2 = set := by
  rw [setParent] at refused ⊢
  cases found : set.indexOf child with
  | error unknown => rfl
  | ok index =>
      simp only [found] at refused ⊢
      cases checked : set.checkParent child parent with
      | error cause => rfl
      | ok _ =>
          simp only [checked] at refused ⊢
          split at refused
          · exact absurd refused (by simp)
          · rw [if_neg (by assumption)]

/-- The check refuses exactly the links that would close a cycle. -/
theorem IsForest.checkParent_eq
    [Decidable (Cyclic (Relinked set.LinksTo child parent))]
    (forest : set.IsForest)
    (parentOwned : ∀ id, parent = some id → set.Owns id) :
    set.checkParent child parent =
      if Cyclic (Relinked set.LinksTo child parent) then .error .parentCycle else .ok () := by
  cases parent with
  | none => simp [checkParent, cyclic_relinked_iff forest.acyclic]
  | some id =>
      have owned : set.Owns id := parentOwned id rfl
      have meets_iff_cyclic : set.meets child (set.size + 1) (some id) = true ↔
          Cyclic (Relinked set.LinksTo child (some id)) := by
        rw [forest.meets_iff owned, cyclic_relinked_iff forest.acyclic]
        simp
      rw [checkParent, indexOf_of_owns owned]
      exact if_congr meets_iff_cyclic rfl rfl

theorem IsForest.setParent_of_cyclic
    (forest : set.IsForest)
    (owned : set.Owns child)
    (parentOwned : ∀ id, parent = some id → set.Owns id)
    (cyclic : Cyclic (Relinked set.LinksTo child parent)) :
    set.setParent child parent = (.error .parentCycle, set) := by
  classical
  rw [setParent, indexOf_of_owns owned, forest.checkParent_eq parentOwned, if_pos cyclic]

theorem IsForest.setParent_of_acyclic
    (forest : set.IsForest)
    (owned : set.Owns child)
    (parentOwned : ∀ id, parent = some id → set.Owns id)
    (acyclic : ¬Cyclic (Relinked set.LinksTo child parent)) :
    set.setParent child parent = (.ok (), set.relink child.index parent) := by
  classical
  have inside : child.index < set.parents.length := forest.index_lt_length_parents owned
  rw [setParent, indexOf_of_owns owned, forest.checkParent_eq parentOwned, if_neg acyclic]
  exact if_pos inside

/-- All that a request for a link can do: it is refused and changes nothing, or it
puts a link between builders of the set that closes no cycle. -/
theorem IsForest.setParent_cases
    (forest : set.IsForest)
    (child : BuilderId)
    (parent : Option BuilderId) :
    (∃ error, set.setParent child parent = (.error error, set)) ∨
      set.Owns child ∧ (∀ id, parent = some id → set.Owns id) ∧
        ¬Cyclic (Relinked set.LinksTo child parent) ∧
        set.setParent child parent = (.ok (), set.relink child.index parent) := by
  by_cases owned : set.Owns child
  · by_cases parentOwned : ∀ id, parent = some id → set.Owns id
    · by_cases cyclic : Cyclic (Relinked set.LinksTo child parent)
      · exact .inl ⟨_, forest.setParent_of_cyclic owned parentOwned cyclic⟩
      · exact .inr ⟨owned, parentOwned, cyclic,
          forest.setParent_of_acyclic owned parentOwned cyclic⟩
    · push Not at parentOwned
      obtain ⟨id, rfl, foreign⟩ := parentOwned
      exact .inl ⟨_, setParent_of_not_owns_parent owned foreign⟩
  · exact .inl ⟨_, setParent_of_not_owns owned⟩

theorem IsForest.setParent
    (forest : set.IsForest) :
    (set.setParent child parent).2.IsForest := by
  rcases forest.setParent_cases child parent with
    ⟨error, refused⟩ | ⟨owned, parentOwned, acyclic, accepted⟩
  · rw [refused]
    exact forest
  · rw [accepted]
    exact forest.relink owned parentOwned acyclic

/-! ## Runs -/

/-- Every call keeps a forest a forest. -/
theorem IsForest.apply
    (forest : set.IsForest)
    (call : Call) :
    (set.apply call).IsForest := by
  cases call with
  | insert builder => exact forest.insert
  | update id change => exact forest.update
  | setParent child parent => exact forest.setParent

theorem IsForest.applyAll
    (forest : set.IsForest)
    (calls : List Call) :
    (set.applyAll calls).IsForest := by
  induction calls generalizing set with
  | nil => exact forest
  | cons call calls inductionHypothesis => exact inductionHypothesis (forest.apply call)

/-- Calls only ever lead to forests. -/
theorem Reachable.isForest
    (reachable : set.Reachable) :
    set.IsForest := by
  obtain ⟨number, calls, rfl⟩ := reachable
  exact (isForest_ofNumber number).applyAll calls

end Calls

/-- Whatever calls were made on a set, its links stay inside it and have no cycle,
and from each of its builders both walks along them take a path of distinct
builders to one without a parent. -/
theorem Reachable.isForest_and_walks_end
    {set : BuilderSet}
    (reachable : set.Reachable) :
    set.IsForest ∧ ∀ id, set.Owns id → ∃ path, set.WalksAlong id path := by
  have forest : set.IsForest := reachable.isForest
  refine ⟨forest, fun id owned => ?_⟩
  obtain ⟨path, lineage⟩ := forest.exists_lineage owned
  exact ⟨path, forest.walksAlong lineage⟩

/-- Links that were set, refused, cleared, and replaced among three builders. -/
theorem walks_end_after_relinking :
    let set := (ofNumber 7).applyAll
      [.insert {}, .insert {}, .insert {}, .setParent ⟨7, 0⟩ (some ⟨7, 1⟩),
        .setParent ⟨7, 1⟩ (some ⟨7, 2⟩), .setParent ⟨7, 2⟩ (some ⟨7, 0⟩),
        .update ⟨7, 3⟩ .ok, .setParent ⟨7, 0⟩ (some ⟨8, 1⟩), .setParent ⟨7, 1⟩ none,
        .setParent ⟨7, 2⟩ (some ⟨7, 0⟩)]
    set.Reachable ∧ set.parents = [some ⟨7, 1⟩, none, some ⟨7, 0⟩] ∧
      set.IsForest ∧ ∀ id, set.Owns id → ∃ path, set.WalksAlong id path := by
  intro set
  have reachable : set.Reachable := ⟨7, _, rfl⟩
  exact ⟨reachable, by decide, reachable.isForest_and_walks_end⟩

end BuilderSet
end TrustPolicy
