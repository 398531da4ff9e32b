import TrustPolicy.Proofs.Forest
import TrustPolicy.World.Build

/-!
# Resolution

Each value of a builder in a set is the one of the nearest builder that sets it,
from the builder itself up to the root above it, or a fixed value if none does.
The questions for one value, the building of a policy, and the building of one
builder that repeats what the chain sets all have the same answer.
-/

namespace TrustPolicy

/-- Whether a value is the one of the first level that sets it, or the value to
fall back to if no level does. -/
def Nearest
    (value : Builder → Option α)
    (otherwise : α)
    (levels : List Builder)
    (result : α) : Prop :=
  (∃ below level above, levels = below ++ level :: above ∧
    (∀ lower ∈ below, value lower = none) ∧ value level = some result) ∨
  (∀ level ∈ levels, value level = none) ∧ result = otherwise

/-- Resolving a value along a chain finds the nearest one. -/
theorem nearest_resolve
    (value : Builder → Option α)
    (otherwise : α)
    (levels : List Builder) :
    Nearest value otherwise levels (Settings.resolve value otherwise levels) := by
  cases found : levels.findSome? value with
  | none =>
      refine .inr ⟨List.findSome?_eq_none_iff.1 found, ?_⟩
      rw [Settings.resolve, found]
      rfl
  | some result =>
      obtain ⟨below, level, above, split, sets, unset⟩ := List.findSome?_eq_some_iff.1 found
      refine .inl ⟨below, level, above, split, unset, ?_⟩
      rw [sets, Settings.resolve, found]
      rfl

/-! ## One builder in place of a chain -/

namespace Builder

/-- The changes that set what a builder sets. -/
def overrides (builder : Builder) : List Call :=
  (builder.cleartextPermitted.map Call.setCleartext).toList ++
    (builder.hstsEnforced.map Call.setHsts).toList ++
    (builder.pinSet.map Call.setPins).toList ++
    (builder.entryRefs.map Call.setRefs).toList

/-- A new builder after the changes that set what a chain sets, from its root to
its first builder. -/
def replay (chain : List Builder) : Builder :=
  blank.applyAll (chain.reverse.flatMap overrides)

section Replay

variable
  {builder base : Builder}

theorem applyAll_append
    (first second : List Call) :
    builder.applyAll (first ++ second) = (builder.applyAll first).applyAll second :=
  List.foldl_append

/-- Changes that repeat a builder put each value that it sets in place of the
value that was there. -/
theorem applyAll_overrides :
    base.applyAll builder.overrides =
      { cleartextPermitted := builder.cleartextPermitted.or base.cleartextPermitted
        hstsEnforced := builder.hstsEnforced.or base.hstsEnforced
        pinSet := builder.pinSet.or base.pinSet
        entryRefs := builder.entryRefs.or base.entryRefs } := by
  obtain ⟨cleartextPermitted, hstsEnforced, pinSet, entryRefs⟩ := builder
  simp only [overrides, applyAll_append]
  cases cleartextPermitted <;> cases hstsEnforced <;> cases pinSet <;> cases entryRefs <;> rfl

theorem findSome?_cons_eq_or
    {value : Builder → Option α}
    {above : List Builder} :
    (builder :: above).findSome? value = (value builder).or (above.findSome? value) := by
  rw [List.findSome?_cons]
  cases value builder <;> rfl

/-- The one builder sets each value that some builder of the chain sets, as the
first of them has it. -/
theorem replay_eq
    (chain : List Builder) :
    replay chain =
      { cleartextPermitted := chain.findSome? cleartextPermitted
        hstsEnforced := chain.findSome? hstsEnforced
        pinSet := chain.findSome? pinSet
        entryRefs := chain.findSome? entryRefs } := by
  induction chain with
  | nil => rfl
  | cons level above inductionHypothesis =>
      have last : replay (level :: above) = (replay above).applyAll level.overrides := by
        simp [replay, applyAll_append]
      rw [last, applyAll_overrides, inductionHypothesis]
      simp only [findSome?_cons_eq_or]

/-- The one builder has the settings of the chain. -/
theorem settings_replay
    (chain : List Builder) :
    (replay chain).settings = Settings.ofChain chain := by
  simp [settings, Settings.ofChain, Settings.cleartextOf, Settings.hstsOf, Settings.pinsOf,
    Settings.entryRefsOf, Settings.resolve, replay_eq]

end Replay

end Builder

/-! ## Building -/

namespace World

variable
  {world : World}
  {chain : List Builder}
  {factory : Option FactoryId}

theorem holds_buildChain :
    (world.buildChain chain factory).2.policies.Holds (world.buildChain chain factory).1 :=
  Arena.holds_add.2 (.inr rfl)

/-- The policy that a chain is built into has the settings of the chain. -/
theorem get_buildChain :
    (world.buildChain chain factory).2.policies.get (world.buildChain chain factory).1 =
      Policy.ofSettings (Settings.ofChain chain) factory (world.buildChain chain factory).1 :=
  Arena.get_add_fresh

end World

namespace BuilderSet

section Answers

variable
  {set : BuilderSet}
  {id : BuilderId}
  {value : List Builder → α}
  {world : World}
  {factory : Option FactoryId}

theorem chain_of_owns
    (owned : set.Owns id) :
    set.chain id = .ok ⟨set, some id⟩ := by
  rw [chain, indexOf_of_owns owned]
  rfl

theorem chain_of_not_owns
    (foreign : ¬set.Owns id) :
    set.chain id = .error (.unknownBuilder id) := by
  rw [chain, indexOf_of_not_owns foreign]
  rfl

theorem resolved_of_owns
    (owned : set.Owns id) :
    set.resolved id value = .ok (value (⟨set, some id⟩ : Chain).builders) := by
  rw [resolved, chain_of_owns owned]
  rfl

theorem resolved_of_not_owns
    (foreign : ¬set.Owns id) :
    set.resolved id value = .error (.unknownBuilder id) := by
  rw [resolved, chain_of_not_owns foreign]
  rfl

theorem buildIn_of_owns
    (owned : set.Owns id) :
    world.buildIn set id factory =
      (.ok (world.buildChain (⟨set, some id⟩ : Chain).builders factory).1,
        (world.buildChain (⟨set, some id⟩ : Chain).builders factory).2) := by
  rw [World.buildIn, chain_of_owns owned]

theorem buildIn_of_not_owns
    (foreign : ¬set.Owns id) :
    world.buildIn set id factory = (.error (.unknownBuilder id), world) := by
  rw [World.buildIn, chain_of_not_owns foreign]

end Answers

/-- The answers about a builder of a set agree: with the levels of its lineage,
each of the four values is the nearest one, and cleartext traffic is permitted,
HSTS is not enforced, and there are no pins and no references where no level says
otherwise. Both ways to build give a policy with these values. The answer about a
foreign identifier is always that it is unknown. -/
theorem Reachable.resolution_agrees
    {set : BuilderSet}
    (reachable : set.Reachable)
    (id : BuilderId) :
    (set.Owns id → ∃ path levels settings,
      set.Lineage id path ∧ path.map set.get = levels.map .ok ∧
      Nearest Builder.cleartextPermitted true levels settings.cleartextPermitted ∧
      Nearest Builder.hstsEnforced false levels settings.hstsEnforced ∧
      Nearest Builder.pinSet PinSet.empty levels settings.pins ∧
      Nearest Builder.entryRefs [] levels settings.entryRefs ∧
      set.cleartext id = .ok settings.cleartextPermitted ∧
      set.hsts id = .ok settings.hstsEnforced ∧
      set.pins id = .ok settings.pins ∧
      set.entryRefs id = .ok settings.entryRefs ∧
      (∀ (world : World) (factory : Option FactoryId), ∃ policy next,
        world.buildIn set id factory = (.ok policy, next) ∧ next.policies.Holds policy ∧
        next.policies.get policy = Policy.ofSettings settings factory policy) ∧
      ∀ (world : World) (factory : Option FactoryId), ∃ policy next,
        world.build (Builder.replay levels) factory = (policy, next) ∧
        next.policies.Holds policy ∧
        next.policies.get policy = Policy.ofSettings settings factory policy) ∧
    (¬set.Owns id →
      set.cleartext id = .error (.unknownBuilder id) ∧
      set.hsts id = .error (.unknownBuilder id) ∧
      set.pins id = .error (.unknownBuilder id) ∧
      set.entryRefs id = .error (.unknownBuilder id) ∧
      ∀ (world : World) (factory : Option FactoryId),
        world.buildIn set id factory = (.error (.unknownBuilder id), world)) := by
  have forest : set.IsForest := reachable.isForest
  constructor
  · intro owned
    obtain ⟨path, lineage⟩ := forest.exists_lineage owned
    let levels : List Builder := (⟨set, some id⟩ : Chain).builders
    have path_get : path.map set.get = levels.map .ok :=
      (forest.walksAlong lineage).chain_builders.symm
    refine ⟨path, levels, Settings.ofChain levels, lineage, path_get, nearest_resolve _ _ _,
      nearest_resolve _ _ _, nearest_resolve _ _ _, nearest_resolve _ _ _,
      resolved_of_owns owned, resolved_of_owns owned, resolved_of_owns owned,
      resolved_of_owns owned, ?_, ?_⟩
    · intro world factory
      exact ⟨_, _, buildIn_of_owns owned, World.holds_buildChain, World.get_buildChain⟩
    · intro world factory
      refine ⟨(world.build (Builder.replay levels) factory).1,
        (world.build (Builder.replay levels) factory).2, rfl, World.holds_buildChain, ?_⟩
      have alone : Settings.ofChain [Builder.replay levels] = Settings.ofChain levels :=
        Builder.settings_replay levels
      rw [World.build, World.get_buildChain, alone]
  · intro foreign
    exact ⟨resolved_of_not_owns foreign, resolved_of_not_owns foreign,
      resolved_of_not_owns foreign, resolved_of_not_owns foreign,
      fun _ _ => buildIn_of_not_owns foreign⟩

/-- A leaf below a builder that sets empty references, which hide those above. -/
theorem resolution_agrees_for_shadowed_refs :
    let set := (ofNumber 7).applyAll
      [.insert { hstsEnforced := some true, entryRefs := some [⟨⟨0⟩, true⟩] },
        .insert { cleartextPermitted := some false, entryRefs := some [] }, .insert {},
        .setParent ⟨7, 1⟩ (some ⟨7, 0⟩), .setParent ⟨7, 2⟩ (some ⟨7, 1⟩)]
    set.Reachable ∧ set.entryRefs ⟨7, 2⟩ = .ok [] ∧ set.hsts ⟨7, 2⟩ = .ok true ∧
      ∃ path levels, set.Lineage ⟨7, 2⟩ path ∧ path.map set.get = levels.map .ok ∧
        Nearest Builder.entryRefs [] levels [] := by
  intro set
  have reachable : set.Reachable := ⟨7, _, rfl⟩
  have owned : set.Owns ⟨7, 2⟩ := by decide
  have emptyRefs : set.entryRefs ⟨7, 2⟩ = .ok [] := by decide
  obtain ⟨path, levels, settings, lineage, path_get, _, _, _, nearestRefs, _, _, _, refs, _⟩ :=
    (reachable.resolution_agrees ⟨7, 2⟩).1 owned
  have settings_refs : settings.entryRefs = [] := by
    simpa using refs.symm.trans emptyRefs
  exact ⟨reachable, emptyRefs, by decide, path, levels, lineage, path_get,
    settings_refs ▸ nearestRefs⟩

end BuilderSet
end TrustPolicy
