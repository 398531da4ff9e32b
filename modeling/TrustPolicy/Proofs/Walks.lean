import TrustPolicy.Proofs.Lineage

/-!
# Walks

Two walks follow the links of a set: a chain, which yields the builders it comes
by, and a search, which ends early if it meets the builder that is sought. In a
forest a chain visits the lineage of the builder where it starts, and a search
visits the part of the lineage up to the builder that is sought. The bounds on
the number of steps are large enough for both.
-/

namespace TrustPolicy
namespace BuilderSet

/-- The builders that a chain visits until it ends. -/
inductive Chain.Visits : Chain → List BuilderId → Prop
  | stop {chain : Chain}
      (ended : chain.advance = none) :
      Visits chain []
  | goOn {chain rest : Chain} {id : BuilderId} {builder : Builder} {path : List BuilderId}
      (current : chain.next = some id)
      (step : chain.advance = some (builder, rest))
      (above : Visits rest path) :
      Visits chain (id :: path)

/-- The builders that a search visits until it is over, and whether it met the
one that is sought. -/
inductive Search
    (set : BuilderSet)
    (sought : BuilderId) : Option BuilderId → List BuilderId → Bool → Prop
  | stop {current : Option BuilderId} {met : Bool}
      (ended : set.turn sought current = .stop met) :
      Search set sought current current.toList met
  | goOn {id : BuilderId} {next : Option BuilderId} {path : List BuilderId} {met : Bool}
      (step : set.turn sought (some id) = .goOn next)
      (above : Search set sought next path met) :
      Search set sought (some id) (id :: path) met

/-- Both walks from a builder take the same path: it visits distinct builders of
the set and ends at the one builder on it without a parent. -/
structure WalksAlong
    (set : BuilderSet)
    (id : BuilderId)
    (path : List BuilderId) : Prop where
  starts : path.head? = some id
  distinct : path.Nodup
  owned : ∀ member ∈ path, set.Owns member
  /-- There are no more steps than there are builders. -/
  length_le : path.length ≤ set.size
  ends : ∀ member ∈ path, set.parent member = .ok none ↔ path.getLast? = some member
  chain_visits : (⟨set, some id⟩ : Chain).Visits path
  /-- The chain is long enough for its bound not to cut it off. -/
  chain_builders : (⟨set, some id⟩ : Chain).builders.map .ok = path.map set.get
  search_of_notMem : ∀ sought ∉ path, set.Search sought (some id) path false
  /-- A search that meets the builder that is sought is over there. -/
  search_of_mem : ∀ sought ∈ path, ∃ below above, path = below ++ sought :: above ∧
    set.Search sought (some id) (below ++ [sought]) true
  /-- The search has turns enough for its bound not to cut it off. -/
  meets_iff : ∀ sought, set.meets sought (set.size + 1) (some id) = true ↔ sought ∈ path

section Walks

variable
  {set : BuilderSet}
  {id sought : BuilderId}
  {found : Option BuilderId}
  {path : List BuilderId}
  {bound : Nat}

theorem parentAt_of_parent_eq_ok
    (answer : set.parent id = .ok found) :
    set.parentAt id.index = found := by
  rw [parent_of_owns (owns_of_parent_eq_ok answer)] at answer
  simpa using answer

/-! ## Chains -/

theorem Chain.advance_none :
    (⟨set, none⟩ : Chain).advance = none := rfl

theorem Chain.take_none :
    (⟨set, none⟩ : Chain).take bound = [] := by
  cases bound <;> rfl

/-- A chain yields the builder that it is at and goes on at its parent. -/
theorem Chain.exists_advance
    (answer : set.parent id = .ok found) :
    ∃ builder, set.get id = .ok builder ∧
      (⟨set, some id⟩ : Chain).advance = some (builder, ⟨set, found⟩) := by
  have owned : set.Owns id := owns_of_parent_eq_ok answer
  have inside : id.index < set.builders.length := owned.2
  refine ⟨_, get_of_owns owned, ?_⟩
  simp [advance, inside, parentAt_of_parent_eq_ok answer]

/-- A chain visits the lineage of the builder where it starts. -/
theorem Lineage.visits
    (lineage : set.Lineage id path) :
    (⟨set, some id⟩ : Chain).Visits path := by
  induction lineage with
  | root unlinked =>
      obtain ⟨_, _, step⟩ := Chain.exists_advance unlinked
      exact .goOn rfl step (.stop Chain.advance_none)
  | child link _ inductionHypothesis =>
      obtain ⟨_, _, step⟩ := Chain.exists_advance link
      exact .goOn rfl step inductionHypothesis

/-- A chain that may take more steps than its lineage is long yields the builders
of the whole lineage. -/
theorem Lineage.map_take
    (lineage : set.Lineage id path)
    (fits : path.length < bound) :
    ((⟨set, some id⟩ : Chain).take bound).map .ok = path.map set.get := by
  induction lineage generalizing bound with
  | root unlinked =>
      obtain ⟨builder, holds, step⟩ := Chain.exists_advance unlinked
      cases bound with
      | zero => exact absurd fits (Nat.not_lt_zero _)
      | succ bound => simp [Chain.take, step, Chain.take_none, holds]
  | child link _ inductionHypothesis =>
      obtain ⟨builder, holds, step⟩ := Chain.exists_advance link
      cases bound with
      | zero => exact absurd fits (Nat.not_lt_zero _)
      | succ bound =>
          simp [Chain.take, step, holds, inductionHypothesis (Nat.lt_of_succ_lt_succ fits)]

/-! ## Searches -/

theorem turn_of_ne
    (answer : set.parent id = .ok found)
    (different : id ≠ sought) :
    set.turn sought (some id) = .goOn found := by
  simp [turn, different, parentAt_of_parent_eq_ok answer]

/-- A search for a builder outside the lineage visits all of the lineage. -/
theorem Lineage.search_of_notMem
    (lineage : set.Lineage id path)
    (absent : sought ∉ path) :
    set.Search sought (some id) path false := by
  induction lineage with
  | root unlinked =>
      rw [List.mem_singleton] at absent
      exact .goOn (turn_of_ne unlinked (Ne.symm absent)) (.stop rfl)
  | child link _ inductionHypothesis =>
      rw [List.mem_cons, not_or] at absent
      exact .goOn (turn_of_ne link (Ne.symm absent.1)) (inductionHypothesis absent.2)

/-- A search for a builder of the lineage visits the lineage up to it. -/
theorem Lineage.search_of_mem
    (lineage : set.Lineage id path)
    (present : sought ∈ path) :
    ∃ below above, path = below ++ sought :: above ∧
      set.Search sought (some id) (below ++ [sought]) true := by
  induction lineage with
  | root _ =>
      obtain rfl : sought = _ := List.mem_singleton.1 present
      exact ⟨[], [], rfl, .stop (if_pos rfl)⟩
  | @child id _ path link _ inductionHypothesis =>
      by_cases same : id = sought
      · subst same
        exact ⟨[], path, rfl, .stop (if_pos rfl)⟩
      · have inRest : sought ∈ path := List.mem_of_ne_of_mem (Ne.symm same) present
        obtain ⟨below, above, split, search⟩ := inductionHypothesis inRest
        exact ⟨id :: below, above, by rw [split]; rfl, .goOn (turn_of_ne link same) search⟩

/-- A search that may take more turns than it visits builders has the answer of
the search that goes on until it is over. -/
theorem Search.meets_eq
    {current : Option BuilderId}
    {met : Bool}
    (search : set.Search sought current path met)
    (fits : path.length < bound) :
    set.meets sought bound current = met := by
  induction search generalizing bound with
  | stop ended =>
      cases bound with
      | zero => exact absurd fits (Nat.not_lt_zero _)
      | succ bound => simp [meets, ended]
  | goOn step _ inductionHypothesis =>
      cases bound with
      | zero => exact absurd fits (Nat.not_lt_zero _)
      | succ bound => simp [meets, step, inductionHypothesis (Nat.lt_of_succ_lt_succ fits)]

/-- A search from a builder meets exactly the builders of its lineage. -/
theorem Lineage.meets_iff
    (lineage : set.Lineage id path)
    (fits : path.length < bound) :
    set.meets sought bound (some id) = true ↔ sought ∈ path := by
  by_cases present : sought ∈ path
  · obtain ⟨below, above, split, search⟩ := lineage.search_of_mem present
    have shorter : (below ++ [sought]).length < bound := by
      refine Nat.lt_of_le_of_lt ?_ fits
      simp [split]
    simp [search.meets_eq shorter, present]
  · simp [(lineage.search_of_notMem present).meets_eq fits, present]

end Walks

/-! ## Walks in forests -/

section Forest

variable
  {set : BuilderSet}
  {id sought : BuilderId}

/-- The walks from a builder of a forest follow its lineage. -/
theorem IsForest.walksAlong
    {path : List BuilderId}
    (forest : set.IsForest)
    (lineage : set.Lineage id path) :
    set.WalksAlong id path := by
  have length_le : path.length ≤ set.size := lineage.length_le_size forest.acyclic
  have fits : path.length < set.size + 1 := Nat.lt_succ_of_le length_le
  exact {
    starts := lineage.head?_eq
    distinct := lineage.nodup forest.acyclic
    owned := fun _ => lineage.owns
    length_le := length_le
    ends := fun _ => lineage.parent_eq_none_iff forest.acyclic
    chain_visits := lineage.visits
    chain_builders := lineage.map_take fits
    search_of_notMem := fun _ => lineage.search_of_notMem
    search_of_mem := fun _ => lineage.search_of_mem
    meets_iff := fun _ => lineage.meets_iff fits }

/-- A search in a forest meets exactly the builders that the links lead to. -/
theorem IsForest.meets_iff
    (forest : set.IsForest)
    (owned : set.Owns id) :
    set.meets sought (set.size + 1) (some id) = true ↔
      Relation.ReflTransGen set.LinksTo id sought := by
  obtain ⟨path, lineage⟩ := forest.exists_lineage owned
  rw [(forest.walksAlong lineage).meets_iff, lineage.mem_iff]

end Forest

end BuilderSet
end TrustPolicy
