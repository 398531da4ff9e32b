import TrustPolicy.Proofs.EffectiveValues
import TrustPolicy.Proofs.Reparenting

/-!
# Wiring

A hierarchy says which builders are to have which parents. It is wired by one
request for each link, in some order. All requests are accepted exactly if the
hierarchy has no cycle, whatever the order is, and the set is the same for all
orders. If there is a cycle, some request is refused in every order.
-/

namespace TrustPolicy

/-- The parent that each builder is to have, if it is to have one. -/
abbrev Hierarchy := BuilderId → Option BuilderId

namespace Hierarchy

/-- Whether a hierarchy links a builder to another one. -/
def LinksTo
    (hierarchy : Hierarchy)
    (lower upper : BuilderId) : Prop :=
  hierarchy lower = some upper

/-- Whether a list has each builder that is to have a parent once, and no other one. -/
structure IsOrder
    (hierarchy : Hierarchy)
    (order : List BuilderId) : Prop where
  distinct : order.Nodup
  mem_iff : ∀ child, child ∈ order ↔ ∃ parent, hierarchy.LinksTo child parent

end Hierarchy

/-- Fewer links have a cycle only if all of them have one. -/
theorem Cyclic.mono
    {links more : BuilderId → BuilderId → Prop}
    (cyclic : Cyclic links)
    (included : ∀ lower upper, links lower upper → more lower upper) :
    Cyclic more := by
  obtain ⟨id, way⟩ := cyclic
  exact ⟨id, Relation.TransGen.mono included id id way⟩

namespace BuilderSet

/-- The answers to requests for the links of a hierarchy, one child after another, and
the set after them. -/
def wire
    (set : BuilderSet)
    (hierarchy : Hierarchy) : List BuilderId → List (Except PolicyError Unit) × BuilderSet
  | [] => ([], set)
  | child :: rest =>
      let (answer, next) := set.setParent child (hierarchy child)
      let (answers, final) := next.wire hierarchy rest
      (answer :: answers, final)

/-- Whether a forest differs from a set in links only, and has no links but those of a
hierarchy. -/
structure PartlyWired
    (base : BuilderSet)
    (hierarchy : Hierarchy)
    (set : BuilderSet) : Prop where
  forest : set.IsForest
  same : set = { base with parents := set.parents }
  links : ∀ lower upper, set.LinksTo lower upper → hierarchy.LinksTo lower upper

/-- The ways in which requests for the links of a hierarchy can go. A request is
refused only if the hierarchy has a cycle. -/
inductive Wiring
    (hierarchy : Hierarchy) :
    BuilderSet → List BuilderId → List (Except PolicyError Unit) → BuilderSet → Prop
  | done
      {set : BuilderSet} :
      Wiring hierarchy set [] [] set
  | refused
      {set final : BuilderSet}
      {child : BuilderId}
      {rest : List BuilderId}
      {answers : List (Except PolicyError Unit)}
      (cyclic : Cyclic hierarchy.LinksTo)
      (later : Wiring hierarchy set rest answers final) :
      Wiring hierarchy set (child :: rest) (.error .parentCycle :: answers) final
  | accepted
      {set final : BuilderSet}
      {child : BuilderId}
      {rest : List BuilderId}
      {answers : List (Except PolicyError Unit)}
      (forest : set.IsForest)
      (owned : set.Owns child)
      (later : Wiring hierarchy (set.relink child.index (hierarchy child)) rest answers final) :
      Wiring hierarchy set (child :: rest) (.ok () :: answers) final

section Wiring

variable
  {base set other final : BuilderSet}
  {hierarchy : Hierarchy}
  {order : List BuilderId}
  {answers : List (Except PolicyError Unit)}
  {id child parent : BuilderId}

/-- Forests that differ in links only are the same if they have the same links. -/
theorem IsForest.eq_of_parent_eq
    (forest : set.IsForest)
    (otherForest : other.IsForest)
    (same : other = { set with parents := other.parents })
    (sameLinks : ∀ id, set.Owns id → other.parent id = set.parent id) :
    other = set := by
  have sameSize : other.parents.length = set.parents.length := by
    rw [otherForest.length_parents, forest.length_parents, same]
  have sameParents : other.parents = set.parents := by
    refine List.ext_getElem sameSize fun index inOther inSet => ?_
    have owned : set.Owns ⟨set.number, index⟩ :=
      ⟨rfl, Nat.lt_of_lt_of_eq inSet forest.length_parents⟩
    have otherOwned : other.Owns ⟨set.number, index⟩ := by
      rw [same]
      exact owned
    have answer := sameLinks _ owned
    rw [parent_of_owns owned, parent_of_owns otherOwned] at answer
    simpa [parentAt, inOther, inSet] using answer
  rw [same, sameParents]

/-! ## Requests -/

namespace PartlyWired

theorem owns_iff
    (wired : PartlyWired base hierarchy set) :
    set.Owns id ↔ base.Owns id := by
  rw [wired.same]
  rfl

/-- A set without links is wired in part for any hierarchy. -/
theorem of_roots
    (forest : set.IsForest)
    (roots : ∀ id, set.Owns id → set.parent id = .ok none) :
    PartlyWired set hierarchy set where
  forest := forest
  same := rfl
  links lower upper link := by
    have unlinked := roots lower (owns_of_parent_eq_ok link)
    exact absurd (unlinked.symm.trans link) (by simp)

/-- A link of the hierarchy in place of the one that its child has leaves links of the
hierarchy only. -/
theorem relinked
    (wired : PartlyWired base hierarchy set)
    (lower upper : BuilderId)
    (link : Relinked set.LinksTo child (hierarchy child) lower upper) :
    hierarchy.LinksTo lower upper := by
  by_cases same : lower = child
  · subst same
    exact relinked_self.1 link
  · exact wired.links lower upper ((relinked_of_ne same).1 link)

/-- A request for a link of the hierarchy is refused because it closes a cycle, or it
puts the link. -/
theorem setParent_cases
    (wired : PartlyWired base hierarchy set)
    (within : ∀ lower upper, hierarchy.LinksTo lower upper → base.Owns lower ∧ base.Owns upper)
    (asked : hierarchy.LinksTo child parent) :
    (Cyclic hierarchy.LinksTo ∧
      set.setParent child (hierarchy child) = (.error .parentCycle, set)) ∨
    set.Owns child ∧
      set.setParent child (hierarchy child) =
        (.ok (), set.relink child.index (hierarchy child)) ∧
      PartlyWired base hierarchy (set.relink child.index (hierarchy child)) := by
  have owned : set.Owns child := wired.owns_iff.2 (within child parent asked).1
  have parentOwned : ∀ id, hierarchy child = some id → set.Owns id := fun id link =>
    wired.owns_iff.2 (within child id link).2
  by_cases cyclic : Cyclic (Relinked set.LinksTo child (hierarchy child))
  · exact .inl ⟨cyclic.mono wired.relinked,
      wired.forest.setParent_of_cyclic owned parentOwned cyclic⟩
  · refine .inr ⟨owned, wired.forest.setParent_of_acyclic owned parentOwned cyclic, ?_⟩
    exact {
      forest := wired.forest.relink owned parentOwned cyclic
      same := by
        rw [wired.same]
        rfl
      links := by
        rw [wired.forest.linksTo_relink owned]
        exact wired.relinked }

/-- Requests for links of the hierarchy go in one of these ways, and lead to a set that
is wired in part. -/
theorem wire
    (wired : PartlyWired base hierarchy set)
    (within : ∀ lower upper, hierarchy.LinksTo lower upper → base.Owns lower ∧ base.Owns upper)
    (asked : ∀ child ∈ order, ∃ parent, hierarchy.LinksTo child parent) :
    Wiring hierarchy set order (set.wire hierarchy order).1 (set.wire hierarchy order).2 ∧
      PartlyWired base hierarchy (set.wire hierarchy order).2 := by
  induction order generalizing set with
  | nil => exact ⟨.done, wired⟩
  | cons child rest inductionHypothesis =>
      obtain ⟨⟨parent, link⟩, askedRest⟩ := List.forall_mem_cons.1 asked
      simp only [BuilderSet.wire]
      rcases wired.setParent_cases within link with ⟨cyclic, refused⟩ | ⟨owned, accepted, next⟩
      · obtain ⟨later, final⟩ := inductionHypothesis wired askedRest
        rw [refused]
        exact ⟨.refused cyclic later, final⟩
      · obtain ⟨later, final⟩ := inductionHypothesis next askedRest
        rw [accepted]
        exact ⟨.accepted wired.forest owned later, final⟩

end PartlyWired

/-! ## Answers and links -/

namespace Wiring

/-- Without a cycle all requests are accepted. -/
theorem answer_eq_ok
    (wiring : Wiring hierarchy set order answers final)
    (acyclic : ¬Cyclic hierarchy.LinksTo)
    {answer : Except PolicyError Unit}
    (present : answer ∈ answers) :
    answer = .ok () := by
  induction wiring with
  | done => exact absurd present List.not_mem_nil
  | refused cyclic _ _ => exact absurd cyclic acyclic
  | accepted _ _ _ inductionHypothesis =>
      exact (List.mem_cons.1 present).elim id inductionHypothesis

theorem answer_cases
    (wiring : Wiring hierarchy set order answers final)
    {answer : Except PolicyError Unit}
    (present : answer ∈ answers) :
    answer = .ok () ∨ answer = .error .parentCycle := by
  induction wiring with
  | done => exact absurd present List.not_mem_nil
  | refused _ _ inductionHypothesis =>
      exact (List.mem_cons.1 present).elim .inr inductionHypothesis
  | accepted _ _ _ inductionHypothesis =>
      exact (List.mem_cons.1 present).elim .inl inductionHypothesis

/-- Each request has an answer. -/
theorem length_answers
    (wiring : Wiring hierarchy set order answers final) :
    answers.length = order.length := by
  induction wiring with
  | done => rfl
  | refused _ _ inductionHypothesis => exact congrArg Nat.succ inductionHypothesis
  | accepted _ _ _ inductionHypothesis => exact congrArg Nat.succ inductionHypothesis

/-- A builder for which no link is requested keeps the one that it has. -/
theorem parent_of_notMem
    (wiring : Wiring hierarchy set order answers final)
    (absent : id ∉ order) :
    final.parent id = set.parent id := by
  induction wiring with
  | done => rfl
  | refused _ _ inductionHypothesis =>
      exact inductionHypothesis (List.not_mem_of_not_mem_cons absent)
  | accepted _ owned _ inductionHypothesis =>
      rw [inductionHypothesis (List.not_mem_of_not_mem_cons absent),
        parent_relink_of_ne owned (List.ne_of_not_mem_cons absent)]

/-- A builder whose link is accepted has it from then on. -/
theorem parent_of_accepted
    (wiring : Wiring hierarchy set order answers final)
    (distinct : order.Nodup)
    (accepted : (id, .ok ()) ∈ order.zip answers) :
    final.parent id = .ok (hierarchy id) := by
  induction wiring with
  | done => exact absurd accepted List.not_mem_nil
  | refused _ _ inductionHypothesis =>
      refine inductionHypothesis (List.nodup_cons.1 distinct).2 ?_
      exact (List.mem_cons.1 accepted).resolve_left (by simp)
  | accepted forest owned later inductionHypothesis =>
      obtain ⟨absent, distinctRest⟩ := List.nodup_cons.1 distinct
      rcases List.mem_cons.1 accepted with here | elsewhere
      · obtain rfl := congrArg Prod.fst here
        rw [later.parent_of_notMem absent]
        exact forest.parent_relink_self owned
      · exact inductionHypothesis distinctRest elsewhere

/-- A builder whose link is refused keeps the one that it has. -/
theorem parent_of_refused
    (wiring : Wiring hierarchy set order answers final)
    (distinct : order.Nodup)
    {error : PolicyError}
    (refused : (id, .error error) ∈ order.zip answers) :
    final.parent id = set.parent id := by
  induction wiring with
  | done => exact absurd refused List.not_mem_nil
  | refused _ later inductionHypothesis =>
      obtain ⟨absent, distinctRest⟩ := List.nodup_cons.1 distinct
      rcases List.mem_cons.1 refused with here | elsewhere
      · obtain rfl := congrArg Prod.fst here
        exact later.parent_of_notMem absent
      · exact inductionHypothesis distinctRest elsewhere
  | accepted _ owned _ inductionHypothesis =>
      obtain ⟨absent, distinctRest⟩ := List.nodup_cons.1 distinct
      have elsewhere := (List.mem_cons.1 refused).resolve_left (by simp)
      have different : id ≠ _ := ne_of_mem_of_not_mem (List.of_mem_zip elsewhere).1 absent
      rw [inductionHypothesis distinctRest elsewhere, parent_relink_of_ne owned different]

theorem exists_answer
    (wiring : Wiring hierarchy set order answers final)
    (present : id ∈ order) :
    ∃ answer ∈ answers, (id, answer) ∈ order.zip answers := by
  obtain ⟨index, inOrder, rfl⟩ := List.getElem_of_mem present
  have inAnswers : index < answers.length := wiring.length_answers ▸ inOrder
  have inZip : index < (order.zip answers).length := by
    rw [List.length_zip]
    exact Nat.lt_min.2 ⟨inOrder, inAnswers⟩
  refine ⟨answers[index], List.getElem_mem inAnswers, ?_⟩
  rw [← List.getElem_zip (h := inZip)]
  exact List.getElem_mem inZip

/-- If all requests are accepted, the links are those of the hierarchy. -/
theorem parent_of_all_accepted
    (wiring : Wiring hierarchy set order answers final)
    (ordered : hierarchy.IsOrder order)
    (accepted : ∀ answer ∈ answers, answer = .ok ())
    (unlinked : set.parent id = .ok none) :
    final.parent id = .ok (hierarchy id) := by
  by_cases present : id ∈ order
  · obtain ⟨answer, given, paired⟩ := wiring.exists_answer present
    rw [accepted answer given] at paired
    exact wiring.parent_of_accepted ordered.distinct paired
  · have none : hierarchy id = none := by
      refine Option.eq_none_iff_forall_ne_some.2 fun parent link => ?_
      exact present ((ordered.mem_iff id).2 ⟨parent, link⟩)
    rw [wiring.parent_of_notMem present, unlinked, none]

end Wiring

end Wiring

/-- What requests for the links of a hierarchy come to, in some order. -/
structure WiresInAnyOrder
    (set : BuilderSet)
    (hierarchy : Hierarchy)
    (order : List BuilderId)
    (answers : List (Except PolicyError Unit))
    (next : BuilderSet) : Prop where
  answered : answers.length = order.length
  /-- All requests are accepted exactly if the hierarchy has no cycle. -/
  succeeds : (∀ answer ∈ answers, answer = .ok ()) ↔ ¬Cyclic hierarchy.LinksTo
  /-- If it has one, some request is refused. -/
  fails : Cyclic hierarchy.LinksTo → .error .parentCycle ∈ answers
  /-- Requests are refused for no other reason. -/
  reason : ∀ answer ∈ answers, answer = .ok () ∨ answer = .error .parentCycle
  /-- Without a cycle the links are those of the hierarchy. -/
  complete : ¬Cyclic hierarchy.LinksTo → ∀ id, set.Owns id → next.parent id = .ok (hierarchy id)
  /-- With a cycle or without one, they are those of the accepted requests. -/
  accepted : ∀ child, (child, .ok ()) ∈ order.zip answers →
    next.parent child = .ok (hierarchy child)
  refused : ∀ child error, (child, .error error) ∈ order.zip answers →
    next.parent child = .ok none
  included : ∀ lower upper, next.LinksTo lower upper → hierarchy.LinksTo lower upper
  acyclic : ¬Cyclic next.LinksTo
  /-- Nothing else in the set changes. -/
  confined : next = { set with parents := next.parents }
  /-- Without a cycle every other order leads to the same set, with the same effective
  values and the same policies that are built. -/
  anyOrder : ¬Cyclic hierarchy.LinksTo → ∀ other, hierarchy.IsOrder other →
    (set.wire hierarchy other).2 = next ∧
      (∀ id field, (set.wire hierarchy other).2.effective id field = next.effective id field) ∧
      ∀ (world : World) (id : BuilderId) (factory : Option FactoryId),
        world.buildIn (set.wire hierarchy other).2 id factory = world.buildIn next id factory

/-- Builders without parents are wired to a hierarchy of their set in any order. -/
theorem Reachable.wired_in_any_order
    {set : BuilderSet}
    (reachable : set.Reachable)
    (roots : ∀ id, set.Owns id → set.parent id = .ok none)
    {hierarchy : Hierarchy}
    (within : ∀ lower upper, hierarchy.LinksTo lower upper → set.Owns lower ∧ set.Owns upper)
    {order : List BuilderId}
    (ordered : hierarchy.IsOrder order) :
    WiresInAnyOrder set hierarchy order (set.wire hierarchy order).1
      (set.wire hierarchy order).2 := by
  have start : PartlyWired set hierarchy set := .of_roots reachable.isForest roots
  have asked {order : List BuilderId} (ordered : hierarchy.IsOrder order) :
      ∀ child ∈ order, ∃ parent, hierarchy.LinksTo child parent := fun child =>
    (ordered.mem_iff child).1
  obtain ⟨wiring, wired⟩ := start.wire within (asked ordered)
  have accepted_of_acyclic (acyclic : ¬Cyclic hierarchy.LinksTo) :
      ∀ answer ∈ (set.wire hierarchy order).1, answer = .ok () :=
    fun _ => wiring.answer_eq_ok acyclic
  -- If all links were put, a cycle of the hierarchy would be one of the forest.
  have acyclic_of_accepted
      (accepted : ∀ answer ∈ (set.wire hierarchy order).1, answer = .ok ()) :
      ¬Cyclic hierarchy.LinksTo := by
    refine fun cyclic => wired.forest.acyclic (cyclic.mono fun lower upper link => ?_)
    have unlinked := roots lower (within lower upper link).1
    rw [LinksTo, wiring.parent_of_all_accepted ordered accepted unlinked, link]
  have complete (acyclic : ¬Cyclic hierarchy.LinksTo) (id : BuilderId) (owned : set.Owns id) :
      (set.wire hierarchy order).2.parent id = .ok (hierarchy id) :=
    wiring.parent_of_all_accepted ordered (accepted_of_acyclic acyclic) (roots id owned)
  have same (acyclic : ¬Cyclic hierarchy.LinksTo)
      {other : List BuilderId} (otherOrdered : hierarchy.IsOrder other) :
      (set.wire hierarchy other).2 = (set.wire hierarchy order).2 := by
    obtain ⟨otherWiring, otherWired⟩ := start.wire within (asked otherOrdered)
    refine wired.forest.eq_of_parent_eq otherWired.forest ?_ fun id owned => ?_
    · rw [otherWired.same, wired.same]
    · have owned : set.Owns id := wired.owns_iff.1 owned
      rw [complete acyclic id owned, otherWiring.parent_of_all_accepted otherOrdered
        (fun _ => otherWiring.answer_eq_ok acyclic) (roots id owned)]
  exact {
    answered := wiring.length_answers
    succeeds := ⟨acyclic_of_accepted, accepted_of_acyclic⟩
    fails := by
      intro cyclic
      by_contra absent
      refine acyclic_of_accepted (fun answer present => ?_) cyclic
      refine (wiring.answer_cases present).resolve_right ?_
      rintro rfl
      exact absent present
    reason := fun _ => wiring.answer_cases
    complete := complete
    accepted := fun _ => wiring.parent_of_accepted ordered.distinct
    refused := by
      intro child error refused
      obtain ⟨parent, link⟩ := (ordered.mem_iff child).1 (List.of_mem_zip refused).1
      rw [wiring.parent_of_refused ordered.distinct refused]
      exact roots child (within child parent link).1
    included := wired.links
    acyclic := wired.forest.acyclic
    confined := wired.same
    anyOrder := by
      intro acyclic other otherOrdered
      rw [same acyclic otherOrdered]
      exact ⟨rfl, fun _ _ => rfl, fun _ _ _ => rfl⟩ }

/-- Three builders that are to stand above one another in a circle. Each order refuses
some link, but not the same one. -/
theorem wired_in_any_order_around_circle :
    let set := (ofNumber 7).applyAll [.insert {}, .insert {}, .insert {}]
    let hierarchy : Hierarchy := fun id =>
      if id = ⟨7, 0⟩ then some ⟨7, 1⟩
      else if id = ⟨7, 1⟩ then some ⟨7, 2⟩
      else if id = ⟨7, 2⟩ then some ⟨7, 0⟩
      else none
    let order : List BuilderId := [⟨7, 0⟩, ⟨7, 1⟩, ⟨7, 2⟩]
    let other : List BuilderId := [⟨7, 2⟩, ⟨7, 1⟩, ⟨7, 0⟩]
    set.Reachable ∧ (∀ id, set.Owns id → set.parent id = .ok none) ∧
      hierarchy.IsOrder order ∧ hierarchy.IsOrder other ∧ Cyclic hierarchy.LinksTo ∧
      .error .parentCycle ∈ (set.wire hierarchy other).1 ∧
      (set.wire hierarchy order).2.parent ⟨7, 1⟩ = .ok (some ⟨7, 2⟩) ∧
      (set.wire hierarchy order).2.parent ⟨7, 2⟩ = .ok none ∧
      (set.wire hierarchy other).2.parent ⟨7, 0⟩ = .ok none := by
  intro set hierarchy order other
  have reachable : set.Reachable := ⟨7, _, rfl⟩
  have roots : ∀ id, set.Owns id → set.parent id = .ok none := by
    rintro ⟨_, _ | _ | _ | index⟩ ⟨rfl, inside⟩
    · rfl
    · rfl
    · rfl
    · exact absurd inside (Nat.not_lt.2 (Nat.le_add_left 3 index))
  have within : ∀ lower upper, hierarchy.LinksTo lower upper →
      set.Owns lower ∧ set.Owns upper := by
    intro lower upper link
    simp only [Hierarchy.LinksTo, hierarchy] at link
    split_ifs at link with first second third
    · exact ⟨first ▸ by decide, Option.some_inj.1 link ▸ by decide⟩
    · exact ⟨second ▸ by decide, Option.some_inj.1 link ▸ by decide⟩
    · exact ⟨third ▸ by decide, Option.some_inj.1 link ▸ by decide⟩
  have isOrder {order : List BuilderId}
      (distinct : order.Nodup)
      (present : ∀ child, child ∈ order ↔
        child = ⟨7, 0⟩ ∨ child = ⟨7, 1⟩ ∨ child = ⟨7, 2⟩) :
      hierarchy.IsOrder order := by
    refine ⟨distinct, fun child => (present child).trans ?_⟩
    simp only [Hierarchy.LinksTo, hierarchy]
    split_ifs <;> simp_all
  have ordered : hierarchy.IsOrder order := isOrder (by decide) (by simp [order])
  have otherOrdered : hierarchy.IsOrder other :=
    isOrder (by decide) fun child => by simp [other]; tauto
  have wires := reachable.wired_in_any_order roots within ordered
  have otherWires := reachable.wired_in_any_order roots within otherOrdered
  have cyclic : Cyclic hierarchy.LinksTo := by
    by_contra acyclic
    have refused : .error .parentCycle ∈ (set.wire hierarchy order).1 := by decide
    exact absurd (wires.succeeds.2 acyclic _ refused) (by simp)
  refine ⟨reachable, roots, ordered, otherOrdered, cyclic, otherWires.fails cyclic, ?_, ?_, ?_⟩
  · exact wires.accepted ⟨7, 1⟩ (by decide)
  · exact wires.refused ⟨7, 2⟩ .parentCycle (by decide)
  · exact otherWires.refused ⟨7, 0⟩ .parentCycle (by decide)

end BuilderSet
end TrustPolicy
