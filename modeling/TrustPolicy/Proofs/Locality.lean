import TrustPolicy.Proofs.EffectiveValues
import TrustPolicy.Proofs.Reparenting

/-!
# Locality of changes

A change of a builder reaches only the builders that have it in their lineage,
and of these only the values that no nearer builder sets. What is nearer hides
the change; what is beyond a new link is taken over as it is there.
-/

namespace TrustPolicy
namespace BuilderSet

/-- What an update of one builder does to the effective values of a builder with a
lineage. -/
structure UpdatesLocally
    (set next : BuilderSet)
    (updated : BuilderId)
    (change : Builder → Except ε Builder)
    (id : BuilderId)
    (path : List BuilderId) : Prop where
  stored : ∃ before after, set.get updated = .ok before ∧ change before = .ok after ∧
    next.get updated = .ok after
  lineage : next.Lineage id path
  /-- Builders with another lineage keep their values. -/
  outside : updated ∉ path → ∀ field, next.effective id field = set.effective id field
  /-- A value that is set nearer to the builder stays. -/
  hidden : ∀ below above, path = below ++ updated :: above →
    ∀ field, (∃ nearer ∈ below, set.ownValue field nearer ≠ none) →
      next.effective id field = set.effective id field
  /-- Any other value is the new one of the updated builder. -/
  reached : ∀ below above, path = below ++ updated :: above →
    ∀ field, (∀ nearer ∈ below, set.ownValue field nearer = none) →
      next.effective id field = next.effective updated field

/-- What a new link of a child does to the effective values of a builder with an old
lineage. -/
structure RelinksLocally
    (set next : BuilderSet)
    (child : BuilderId)
    (parent : Option BuilderId)
    (id : BuilderId)
    (path : List BuilderId) : Prop where
  /-- Builders without the child in their old lineage keep it, and their values. -/
  outside : child ∉ path →
    next.Lineage id path ∧ ∀ field, next.effective id field = set.effective id field
  /-- A value that is set up to the child is the nearest of these. -/
  nearest : ∀ below above, path = below ++ child :: above →
    ∀ field nearer setter further value, below ++ [child] = nearer ++ setter :: further →
      (∀ lower ∈ nearer, set.ownValue field lower = none) →
      set.ownValue field setter = some value →
      next.effective id field = .ok value
  /-- Any other value is the one of the new parent, which keeps its values. -/
  inherited : ∀ below above upper, path = below ++ child :: above → parent = some upper →
    ∀ field, (∀ member ∈ below ++ [child], set.ownValue field member = none) →
      next.effective id field = set.effective upper field
  steady : ∀ upper, parent = some upper →
    ∀ field, next.effective upper field = set.effective upper field
  /-- Without a parent, any other value is the fixed one. -/
  unset : ∀ below above, path = below ++ child :: above → parent = none →
    ∀ field, (∀ member ∈ below ++ [child], set.ownValue field member = none) →
      next.effective id field = .ok field.fallback

section Locality

variable
  {set next : BuilderSet}
  {id updated child upper member : BuilderId}
  {parent : Option BuilderId}
  {path below above rest : List BuilderId}
  {builder : Builder}
  {field : Field}

/-! ## Updates -/

/-- An accepted update stores what the function makes of the builder. -/
theorem update_snd_of_ok
    {change : Builder → Except ε Builder}
    (accepted : (set.update updated change).1 = .ok (.ok ())) :
    set.Owns updated ∧ ∃ before after, set.get updated = .ok before ∧
      change before = .ok after ∧
      (set.update updated change).2 = set.replace updated.index after := by
  by_cases owned : set.Owns updated
  · obtain ⟨before, holds⟩ : ∃ before, set.get updated = .ok before := ⟨_, get_of_owns owned⟩
    rw [update_of_get holds] at accepted ⊢
    cases outcome : change before with
    | error cause => simp [outcome] at accepted
    | ok after => exact ⟨owned, before, after, holds, outcome, rfl⟩
  · rw [update_of_not_owns owned] at accepted
    exact absurd accepted (by simp)

theorem parent_replace
    {index : Nat} :
    (set.replace index builder).parent id = set.parent id := by
  by_cases owned : set.Owns id
  · rw [parent_of_owns (owns_replace.2 owned), parent_of_owns owned]
    rfl
  · rw [parent_of_not_owns (mt owns_replace.1 owned), parent_of_not_owns owned]

theorem get_replace_self
    (owned : set.Owns id) :
    (set.replace id.index builder).get id = .ok builder := by
  have inside : id.index < set.builders.length := owned.2
  rw [get, indexOf_of_owns (owns_replace.2 owned)]
  simp [replace, inside]

theorem get_replace_of_ne
    (owned : set.Owns updated)
    (different : id ≠ updated) :
    (set.replace updated.index builder).get id = set.get id := by
  by_cases idOwned : set.Owns id
  · have differentIndex : updated.index ≠ id.index := by
      intro sameIndex
      exact different (ext_of_owns idOwned owned sameIndex.symm)
    rw [get, get, indexOf_of_owns (owns_replace.2 idOwned), indexOf_of_owns idOwned]
    simp [replace, differentIndex]
  · rw [get, get, indexOf_of_not_owns (mt owns_replace.1 idOwned), indexOf_of_not_owns idOwned]

theorem ownValue_replace_of_ne
    (owned : set.Owns updated)
    (different : id ≠ updated) :
    (set.replace updated.index builder).ownValue field id = set.ownValue field id := by
  rw [ownValue, ownValue, get_replace_of_ne owned different]

/-! ## Values beyond a part of a lineage -/

/-- A lineage names a member once, so the builders before it are other ones. -/
theorem Lineage.ne_of_mem
    (lineage : set.Lineage id (below ++ member :: above))
    (acyclic : ¬Cyclic set.LinksTo)
    {lower : BuilderId}
    (present : lower ∈ below) :
    lower ≠ member := by
  have distinct := List.nodup_append.1 (lineage.nodup acyclic)
  exact distinct.2.2 lower present member List.mem_cons_self

/-- A builder below which nothing is set has the effective values of that builder. -/
theorem IsForest.effective_eq_of_unset
    (forest : set.IsForest)
    (lineage : set.Lineage id (below ++ rest))
    (upperLineage : set.Lineage upper rest)
    (unset : ∀ lower ∈ below, set.ownValue field lower = none) :
    set.effective id field = set.effective upper field := by
  rw [forest.effective_eq lineage, forest.effective_eq upperLineage, List.findSome?_append,
    List.findSome?_eq_none_iff.2 unset, Option.none_or]

/-- The first value that is set in the lineage of a builder is its effective one. -/
theorem IsForest.effective_eq_of_set
    {nearer further : List BuilderId}
    {value : field.Value}
    (forest : set.IsForest)
    (lineage : set.Lineage id (nearer ++ member :: further))
    (unset : ∀ lower ∈ nearer, set.ownValue field lower = none)
    (sets : set.ownValue field member = some value) :
    set.effective id field = .ok value := by
  rw [forest.effective_eq lineage, List.findSome?_append, List.findSome?_eq_none_iff.2 unset,
    Option.none_or, List.findSome?_cons, sets]
  rfl

/-- If a part of a lineage that sets a value stays, the effective value stays. -/
theorem effective_eq_of_exists_set
    (forest : set.IsForest)
    (nextForest : next.IsForest)
    (lineage : set.Lineage id (below ++ above))
    (nextLineage : next.Lineage id (below ++ rest))
    (sameValues : ∀ lower ∈ below, next.ownValue field lower = set.ownValue field lower)
    (sets : ∃ lower ∈ below, set.ownValue field lower ≠ none) :
    next.effective id field = set.effective id field := by
  have found : (below.findSome? (set.ownValue field)).isSome := by
    obtain ⟨lower, present, isSet⟩ := sets
    exact List.findSome?_isSome_iff.2 ⟨lower, present, Option.isSome_iff_ne_none.2 isSet⟩
  rw [nextForest.effective_eq nextLineage, forest.effective_eq lineage, List.findSome?_append,
    List.findSome?_append, findSome?_ownValue_congr sameValues, Option.or_of_isSome found,
    Option.or_of_isSome found]

/-! ## Both kinds of changes -/

theorem IsForest.updatesLocally
    {change : Builder → Except ε Builder}
    (forest : set.IsForest)
    (lineage : set.Lineage id path)
    (accepted : (set.update updated change).1 = .ok (.ok ())) :
    UpdatesLocally set (set.update updated change).2 updated change id path := by
  obtain ⟨owned, before, after, holds, changed, result⟩ := update_snd_of_ok accepted
  rw [result]
  have nextForest : (set.replace updated.index after).IsForest := forest.replace
  have nextLineage : (set.replace updated.index after).Lineage id path :=
    lineage.of_parent_eq fun _ _ => parent_replace
  have sameBelow {below above : List BuilderId}
      (split : path = below ++ updated :: above)
      (field : Field) :
      ∀ lower ∈ below, (set.replace updated.index after).ownValue field lower =
        set.ownValue field lower :=
    fun lower present =>
      ownValue_replace_of_ne owned ((split ▸ lineage).ne_of_mem forest.acyclic present)
  exact {
    stored := ⟨before, after, holds, changed, get_replace_self owned⟩
    lineage := nextLineage
    outside := fun absent field =>
      effective_congr forest nextForest lineage nextLineage fun _ present =>
        ownValue_replace_of_ne owned (ne_of_mem_of_not_mem present absent)
    hidden := by
      intro below above split field sets
      subst split
      exact effective_eq_of_exists_set forest nextForest lineage nextLineage (sameBelow rfl field)
        sets
    reached := by
      intro below above split field unset
      subst split
      refine nextForest.effective_eq_of_unset nextLineage nextLineage.of_append ?_
      exact fun lower present => (sameBelow rfl field lower present).trans (unset lower present) }

/-- The child goes on at its new parent, whose lineage it is not in and which keeps
this lineage. -/
theorem IsForest.exists_lineage_relink
    (forest : set.IsForest)
    (owned : set.Owns child)
    (parentOwned : ∀ id, parent = some id → set.Owns id)
    (acyclic : ¬Cyclic (Relinked set.LinksTo child parent)) :
    ∃ above, (set.relink child.index parent).Lineage child (child :: above) ∧
      (parent = none → above = []) ∧
      ∀ upper, parent = some upper →
        set.Lineage upper above ∧ (set.relink child.index parent).Lineage upper above := by
  have linked : (set.relink child.index parent).parent child = .ok parent :=
    forest.parent_relink_self owned
  cases parent with
  | none => exact ⟨[], .root linked, fun _ => rfl, fun _ absent => absurd absent (by simp)⟩
  | some upper =>
      obtain ⟨above, lineage⟩ := forest.exists_lineage (parentOwned upper rfl)
      have absent : child ∉ above := by
        intro present
        refine acyclic ((cyclic_relinked_iff forest.acyclic).2 ⟨upper, rfl, ?_⟩)
        exact lineage.mem_iff.1 present
      have kept : (set.relink child.index (some upper)).Lineage upper above :=
        lineage.of_parent_eq fun _ present =>
          parent_relink_of_ne owned (ne_of_mem_of_not_mem present absent)
      refine ⟨above, .child linked kept, fun absurdity => absurd absurdity (by simp), ?_⟩
      rintro _ ⟨⟩
      exact ⟨lineage, kept⟩

theorem IsForest.relinksLocally
    (forest : set.IsForest)
    (lineage : set.Lineage id path)
    (accepted : (set.setParent child parent).1 = .ok ()) :
    RelinksLocally set (set.setParent child parent).2 child parent id path := by
  rcases forest.setParent_cases child parent with
    ⟨error, refused⟩ | ⟨owned, parentOwned, acyclic, linked⟩
  · rw [refused] at accepted
    exact absurd accepted (by simp)
  rw [linked]
  have nextForest : (set.relink child.index parent).IsForest :=
    forest.relink owned parentOwned acyclic
  obtain ⟨above, childLineage, ends, goesOn⟩ :=
    forest.exists_lineage_relink owned parentOwned acyclic
  have nextLineage {below oldAbove : List BuilderId}
      (split : path = below ++ child :: oldAbove) :
      (set.relink child.index parent).Lineage id (below ++ [child] ++ above) := by
    rw [List.append_assoc]
    refine (split ▸ lineage).append (fun lower present => ?_) childLineage
    exact parent_relink_of_ne owned ((split ▸ lineage).ne_of_mem forest.acyclic present)
  have steady (upper : BuilderId)
      (new : parent = some upper)
      (field : Field) :
      (set.relink child.index parent).effective upper field = set.effective upper field :=
    effective_congr forest nextForest (goesOn upper new).1 (goesOn upper new).2 fun _ _ => rfl
  exact {
    outside := by
      intro absent
      have kept : (set.relink child.index parent).Lineage id path :=
        lineage.of_parent_eq fun _ present =>
          parent_relink_of_ne owned (ne_of_mem_of_not_mem present absent)
      exact ⟨kept, fun _ => effective_congr forest nextForest lineage kept fun _ _ => rfl⟩
    nearest := by
      intro below oldAbove split field nearer setter further value parts unset sets
      have whole := nextLineage split
      rw [parts, List.append_assoc, List.cons_append] at whole
      exact nextForest.effective_eq_of_set whole unset sets
    inherited := by
      intro below oldAbove upper split new field unset
      rw [← steady upper new field]
      exact nextForest.effective_eq_of_unset (nextLineage split) (goesOn upper new).2 unset
    steady := steady
    unset := by
      intro below oldAbove split cleared field unset
      have whole := nextLineage split
      rw [ends cleared, List.append_nil] at whole
      rw [nextForest.effective_eq whole]
      exact congrArg (fun found => Except.ok (Option.getD found field.fallback))
        (List.findSome?_eq_none_iff.2 unset) }

end Locality

/-- Each builder of a set that calls lead to has a lineage, by which every accepted
change of the set is local. An update reaches the values of the builders that have
the updated one in their lineage, where no nearer builder sets them. A new link
replaces the values of the builders that have the child in their lineage, where no
builder up to the child sets them, by those of the new parent or by fixed ones. -/
theorem Reachable.changes_are_local
    {set : BuilderSet}
    (reachable : set.Reachable)
    {id : BuilderId}
    (owned : set.Owns id) :
    ∃ path, set.Lineage id path ∧
      (∀ field, ∃ value, set.effective id field = .ok value) ∧
      (∀ (ε : Type) (updated : BuilderId) (change : Builder → Except ε Builder),
        (set.update updated change).1 = .ok (.ok ()) →
        UpdatesLocally set (set.update updated change).2 updated change id path) ∧
      ∀ (child : BuilderId) (parent : Option BuilderId),
        (set.setParent child parent).1 = .ok () →
        RelinksLocally set (set.setParent child parent).2 child parent id path := by
  have forest : set.IsForest := reachable.isForest
  obtain ⟨path, lineage⟩ := forest.exists_lineage owned
  refine ⟨path, lineage, fun _ => ⟨_, forest.effective_eq lineage⟩, ?_, ?_⟩
  · exact fun _ _ _ accepted => forest.updatesLocally lineage accepted
  · exact fun _ _ accepted => forest.relinksLocally lineage accepted

/-- A leaf below a builder that enforces HSTS, below a root. An update of the root
reaches the leaf but for HSTS, and a new parent of the middle takes the place of the
root. -/
theorem changes_are_local_in_chain :
    let set := (ofNumber 7).applyAll
      [.insert { cleartextPermitted := some true }, .insert { hstsEnforced := some true },
        .insert {}, .insert { cleartextPermitted := some false },
        .setParent ⟨7, 1⟩ (some ⟨7, 0⟩), .setParent ⟨7, 2⟩ (some ⟨7, 1⟩)]
    let change : Builder → Except Unit Builder := fun builder =>
      .ok ((builder.setCleartext false).setHsts false)
    let updated := (set.update ⟨7, 0⟩ change).2
    let linked := (set.setParent ⟨7, 1⟩ (some ⟨7, 3⟩)).2
    set.Reachable ∧ set.Owns ⟨7, 2⟩ ∧
      updated.effective ⟨7, 2⟩ .hsts = set.effective ⟨7, 2⟩ .hsts ∧
      updated.effective ⟨7, 2⟩ .cleartext = updated.effective ⟨7, 0⟩ .cleartext ∧
      linked.effective ⟨7, 2⟩ .hsts = .ok true ∧
      linked.effective ⟨7, 2⟩ .cleartext = set.effective ⟨7, 3⟩ .cleartext := by
  intro set change updated linked
  have reachable : set.Reachable := ⟨7, _, rfl⟩
  have owned : set.Owns ⟨7, 2⟩ := by decide
  obtain ⟨path, lineage, -, updates, links⟩ := reachable.changes_are_local owned
  have path_eq : path = [⟨7, 2⟩, ⟨7, 1⟩] ++ [⟨7, 0⟩] :=
    lineage.eq_of_lineage (.child rfl (.child rfl (.root rfl)))
  have update := updates Unit ⟨7, 0⟩ change rfl
  have link := links ⟨7, 1⟩ (some ⟨7, 3⟩) rfl
  refine ⟨reachable, owned, ?_, ?_, ?_, ?_⟩
  · refine update.hidden _ _ path_eq .hsts ⟨⟨7, 1⟩, by simp, ?_⟩
    exact Option.some_ne_none true
  · refine update.reached _ _ path_eq .cleartext fun nearer present => ?_
    rcases List.mem_pair.1 present with rfl | rfl <;> rfl
  · refine link.nearest [⟨7, 2⟩] [⟨7, 0⟩] path_eq .hsts [⟨7, 2⟩] ⟨7, 1⟩ [] true rfl ?_ rfl
    intro lower present
    rw [List.mem_singleton.1 present]
    rfl
  · refine link.inherited [⟨7, 2⟩] [⟨7, 0⟩] ⟨7, 3⟩ path_eq rfl .cleartext fun member present => ?_
    rcases List.mem_pair.1 present with rfl | rfl <;> rfl

end BuilderSet
end TrustPolicy
