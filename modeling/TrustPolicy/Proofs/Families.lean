import Mathlib.Data.List.Intervals
import TrustPolicy.Proofs.Locality
import TrustPolicy.Proofs.Runs

/-!
# Families of sets

Sets of builders are numbered in the order in which they are made, and no number is
given out twice. A set takes the identifiers of its own builders and rejects all others,
whatever their positions are. So each identifier that an insertion answers with means
one builder for good, and means nothing to any other set.
-/

namespace TrustPolicy

/-- The values of a builder after changes in order, unless one of them breaks off. -/
def Builder.changedBy
    (builder : Builder)
    (changes : List (Builder → Except Unit Builder)) : Except Unit Builder :=
  changes.foldlM (fun level change => change level) builder

namespace BuilderSet

/-! ## Single sets -/

/-- What a set does with an identifier of a builder with some values. -/
structure Accepts
    (set : BuilderSet)
    (id : BuilderId)
    (level : Builder) : Prop where
  get : set.get id = .ok level
  /-- An update works on these values, and stores what it makes of them. -/
  update : ∀ (ε : Type) (change : Builder → Except ε Builder),
    set.update id change =
      match change level with
      | .error cause => (.ok (.error cause), set)
      | .ok changed => (.ok (.ok ()), set.replace id.index changed)
  parent : ∃ found, set.parent id = .ok found
  /-- A link of it to a builder of the set, or to none, is refused only for a cycle. -/
  child : ∀ parent, (∀ upper, parent = some upper → set.Owns upper) →
    (set.setParent id parent).1 = .ok () ∨ (set.setParent id parent).1 = .error .parentCycle
  /-- A link of a builder of the set to it is refused only for a cycle. -/
  upper : ∀ child, set.Owns child →
    (set.setParent child (some id)).1 = .ok () ∨
      (set.setParent child (some id)).1 = .error .parentCycle
  effective : ∀ field, ∃ value, set.effective id field = .ok value
  build : ∀ (world : World) (factory : Option FactoryId), ∃ policy next,
    world.buildIn set id factory = (.ok policy, next)

/-- What a set does with an identifier of no builder of it: every operation answers that
this very identifier is unknown, and changes nothing. -/
structure Rejects
    (set : BuilderSet)
    (id : BuilderId) : Prop where
  get : set.get id = .error (.unknownBuilder id)
  update : ∀ (ε : Type) (change : Builder → Except ε Builder),
    set.update id change = (.error (.unknownBuilder id), set)
  parent : set.parent id = .error (.unknownBuilder id)
  child : ∀ parent, set.setParent id parent = (.error (.unknownBuilder id), set)
  upper : ∀ child, set.Owns child →
    set.setParent child (some id) = (.error (.unknownBuilder id), set)
  effective : ∀ field, set.effective id field = .error (.unknownBuilder id)
  build : ∀ (world : World) (factory : Option FactoryId),
    world.buildIn set id factory = (.error (.unknownBuilder id), world)

section Sets

variable
  {set : BuilderSet}
  {id child : BuilderId}
  {parent : Option BuilderId}
  {builder level : Builder}
  {call : Call}

/-- A set rejects the identifiers that it does not own. -/
theorem rejects_of_not_owns
    (foreign : ¬set.Owns id) :
    set.Rejects id where
  get := by rw [BuilderSet.get, indexOf_of_not_owns foreign]
  update _ _ := update_of_not_owns foreign
  parent := parent_of_not_owns foreign
  child _ := setParent_of_not_owns foreign
  upper _ owned := setParent_of_not_owns_parent owned foreign
  effective _ := effective_eq_resolved.trans (resolved_of_not_owns foreign)
  build _ _ := buildIn_of_not_owns foreign

/-- Builders of a forest are linked unless this would close a cycle. -/
theorem IsForest.setParent_fst_of_owns
    (forest : set.IsForest)
    (owned : set.Owns child)
    (parentOwned : ∀ upper, parent = some upper → set.Owns upper) :
    (set.setParent child parent).1 = .ok () ∨
      (set.setParent child parent).1 = .error .parentCycle := by
  by_cases cyclic : Cyclic (Relinked set.LinksTo child parent)
  · exact .inr (congrArg Prod.fst (forest.setParent_of_cyclic owned parentOwned cyclic))
  · exact .inl (congrArg Prod.fst (forest.setParent_of_acyclic owned parentOwned cyclic))

/-- A forest accepts the identifiers of its builders. -/
theorem IsForest.accepts
    (forest : set.IsForest)
    (holds : set.get id = .ok level) :
    set.Accepts id level := by
  have owned : set.Owns id := owns_of_get holds
  exact {
    get := holds
    update := fun _ _ => update_of_get holds
    parent := ⟨_, parent_of_owns owned⟩
    child := fun _ => forest.setParent_fst_of_owns owned
    upper := by
      intro child childOwned
      apply forest.setParent_fst_of_owns childOwned
      intro upper same
      exact Option.some_inj.1 same ▸ owned
    effective := fun _ => ⟨_, effective_eq_resolved.trans (resolved_of_owns owned)⟩
    build := fun _ _ => ⟨_, _, buildIn_of_owns owned⟩ }

theorem Reachable.apply
    (reachable : set.Reachable) :
    (set.apply call).Reachable := by
  obtain ⟨number, calls, rfl⟩ := reachable
  refine ⟨number, calls ++ [call], ?_⟩
  exact List.foldl_append

/-! ## What calls keep -/

/-- The change that a call makes to a builder, if it is an update of it that succeeds. -/
def changeOf?
    (set : BuilderSet)
    (id : BuilderId) : Call → Option (Builder → Except Unit Builder)
  | .update target change =>
      if target = id ∧ (set.update target change).1 = .ok (.ok ()) then some change else none
  | .insert _ | .setParent _ _ => none

theorem get_insert
    (owned : set.Owns id) :
    (set.insert builder).get id = set.get id := by
  have inside : id.index < set.builders.length := owned.2
  rw [get, get, indexOf_of_owns (owns_insert owned), indexOf_of_owns owned]
  simp [insert, List.getElem?_append_left inside]

theorem owns_nextId : (set.insert builder).Owns set.nextId :=
  ⟨rfl, by simp [size, insert, nextId]⟩

/-- An insertion answers with the identifier of the inserted builder. -/
theorem get_insert_nextId : (set.insert builder).get set.nextId = .ok builder := by
  rw [get, indexOf_of_owns owns_nextId]
  simp [insert, nextId, size]

/-- An insertion adds no identifier but the one that it answers with. -/
theorem owns_insert_iff :
    (set.insert builder).Owns id ↔ set.Owns id ∨ id = set.nextId := by
  constructor
  · rintro ⟨sameSet, inside⟩
    have ltSucc : id.index < set.size + 1 := by simpa [size, insert] using inside
    rcases Nat.lt_succ_iff_lt_or_eq.1 ltSucc with before | last
    · exact .inl ⟨sameSet, before⟩
    · obtain ⟨number, index⟩ := id
      exact .inr (by rw [nextId, BuilderId.mk.injEq]; exact ⟨sameSet, last⟩)
  · rintro (owned | rfl)
    · exact owns_insert owned
    · exact owns_nextId

/-- A request for a link changes nothing but links. -/
theorem exists_setParent_snd_eq
    (set : BuilderSet)
    (child : BuilderId)
    (parent : Option BuilderId) :
    ∃ parents, (set.setParent child parent).2 = { set with parents := parents } := by
  rw [setParent]
  split
  · exact ⟨_, rfl⟩
  · split
    · exact ⟨_, rfl⟩
    · split <;> exact ⟨_, rfl⟩

/-- An update changes nothing but the values of builders. -/
theorem exists_update_snd_eq
    (set : BuilderSet)
    (id : BuilderId)
    (change : Builder → Except ε Builder) :
    ∃ builders, builders.length = set.builders.length ∧
      (set.update id change).2 = { set with builders := builders } := by
  rw [update]
  split
  · exact ⟨_, rfl, rfl⟩
  · split
    · exact ⟨_, rfl, rfl⟩
    · split
      · exact ⟨_, rfl, rfl⟩
      · exact ⟨_, List.length_set, rfl⟩

/-- What breaks an update off plays no part in what it changes. -/
theorem update_mapError_snd
    {change : Builder → Except ε Builder}
    {forget : ε → Unit} :
    (set.update id fun builder => (change builder).mapError forget).2 =
      (set.update id change).2 := by
  rw [update, update]
  cases set.indexOf id with
  | error unknown => rfl
  | ok index =>
      dsimp only
      cases set.builders[index]? with
      | none => rfl
      | some found =>
          dsimp only
          cases change found <;> rfl

theorem number_apply : (set.apply call).number = set.number := by
  cases call with
  | insert builder => rfl
  | update target change =>
      obtain ⟨builders, -, after⟩ := set.exists_update_snd_eq target change
      rw [apply, after]
  | setParent child parent =>
      obtain ⟨parents, after⟩ := set.exists_setParent_snd_eq child parent
      rw [apply, after]

/-- Only insertions add identifiers. -/
theorem owns_apply_of_not_insert
    (notInserts : ∀ builder, call ≠ .insert builder) :
    (set.apply call).Owns id ↔ set.Owns id := by
  cases call with
  | insert builder => exact absurd rfl (notInserts builder)
  | update target change =>
      obtain ⟨builders, sameLength, after⟩ := set.exists_update_snd_eq target change
      rw [apply, after, Owns, Owns, size, size, sameLength]
  | setParent child parent =>
      obtain ⟨parents, after⟩ := set.exists_setParent_snd_eq child parent
      rw [apply, after]
      exact Iff.rfl

/-- A builder keeps its values, unless an update of it succeeds and changes them. -/
theorem exists_get_apply
    (call : Call)
    (holds : set.get id = .ok level) :
    ∃ changed, level.changedBy (set.changeOf? id call).toList = .ok changed ∧
      (set.apply call).get id = .ok changed := by
  cases call with
  | insert builder => exact ⟨level, rfl, (get_insert (owns_of_get holds)).trans holds⟩
  | setParent child parent =>
      obtain ⟨parents, after⟩ := set.exists_setParent_snd_eq child parent
      refine ⟨level, rfl, ?_⟩
      rw [apply, after]
      exact holds
  | update target change =>
      by_cases accepted : (set.update target change).1 = .ok (.ok ())
      case neg =>
        have unchanged : set.changeOf? id (.update target change) = none :=
          if_neg fun both => accepted both.2
        rw [unchanged, apply, update_of_ne_ok accepted]
        exact ⟨level, rfl, holds⟩
      obtain ⟨owned, before, after, found, changes, stored⟩ := update_snd_of_ok accepted
      rw [apply, stored]
      by_cases same : target = id
      · subst same
        obtain rfl : before = level := Except.ok.inj (found.symm.trans holds)
        rw [changeOf?, if_pos ⟨rfl, accepted⟩]
        refine ⟨after, ?_, get_replace_self owned⟩
        simpa [Builder.changedBy] using changes
      · rw [changeOf?, if_neg fun both => same both.1]
        exact ⟨level, rfl, (get_replace_of_ne owned (Ne.symm same)).trans holds⟩

end Sets

end BuilderSet

/-! ## Families -/

/-- All sets that were made, each at the position of its number. -/
structure Family where
  sets : List BuilderSet

namespace Family

/-- The family without sets. -/
def empty : Family := ⟨[]⟩

/-- The set of a number. -/
def find?
    (family : Family)
    (number : Nat) : Option BuilderSet :=
  family.sets[number]?

/-- A call that makes a new set, or one on the set of a number. -/
inductive Call
  | make
  | on (number : Nat) (call : BuilderSet.Call)

/-- The family after a call. -/
def perform (family : Family) : Call → Family
  | .make => ⟨family.sets ++ [BuilderSet.ofNumber family.sets.length]⟩
  | .on number call => ⟨family.sets.modify number fun set => set.apply call⟩

/-- The family after calls in order. -/
def performAll
    (family : Family)
    (calls : List Call) : Family :=
  calls.foldl perform family

/-- The change that a call makes to a builder, if it is an update of it that succeeds. -/
def changeOf?
    (family : Family)
    (id : BuilderId) : Call → Option (Builder → Except Unit Builder)
  | .make => none
  | .on number call => (family.find? number).bind fun set => set.changeOf? id call

/-- Whether the sets have their numbers, and calls on them have led to them. -/
def IsNumbered (family : Family) : Prop :=
  ∀ number set, family.find? number = some set → set.number = number ∧ set.Reachable

section Families

variable
  {family : Family}
  {call : Call}
  {number : Nat}
  {set : BuilderSet}
  {id : BuilderId}
  {level : Builder}

theorem find?_make_self :
    (family.perform .make).find? family.sets.length =
      some (BuilderSet.ofNumber family.sets.length) := by
  simp [perform, find?]

theorem find?_make_of_ne
    (different : number ≠ family.sets.length) :
    (family.perform .make).find? number = family.find? number := by
  rcases Nat.lt_or_gt_of_ne different with inside | outside
  · exact List.getElem?_append_left inside
  · rw [find?, find?, List.getElem?_eq_none (Nat.le_of_lt outside), List.getElem?_eq_none]
    simpa [perform] using Nat.succ_le_of_lt outside

/-- A call on a set is a call on it alone. -/
theorem find?_on
    {called : Nat}
    {on : BuilderSet.Call} :
    (family.perform (.on called on)).find? number =
      if called = number then (family.find? number).map fun set => set.apply on
      else family.find? number := by
  rw [perform, find?, List.getElem?_modify, ← find?]
  split
  · rfl
  · simp

theorem isNumbered_empty : empty.IsNumbered := by
  intro number set found
  exact absurd found (by simp [find?, empty])

theorem IsNumbered.perform
    (numbered : family.IsNumbered) :
    (family.perform call).IsNumbered := by
  intro number set found
  cases call with
  | make =>
      by_cases last : number = family.sets.length
      · subst last
        obtain rfl := Option.some_inj.1 (find?_make_self.symm.trans found)
        exact ⟨rfl, _, [], rfl⟩
      · rw [find?_make_of_ne last] at found
        exact numbered number set found
  | on called on =>
      rw [find?_on] at found
      split at found
      · obtain ⟨before, present, rfl⟩ := Option.map_eq_some_iff.1 found
        obtain ⟨sameNumber, reachable⟩ := numbered number before present
        exact ⟨BuilderSet.number_apply.trans sameNumber, reachable.apply⟩
      · exact numbered number set found

/-- A set rejects the identifiers of all others, even in a position that it has. -/
theorem IsNumbered.rejects
    (numbered : family.IsNumbered)
    (found : family.find? number = some set)
    (foreign : id.set ≠ number) :
    set.Rejects id := by
  obtain ⟨sameNumber, -⟩ := numbered number set found
  apply BuilderSet.rejects_of_not_owns
  intro owned
  exact foreign (owned.1.trans sameNumber)

/-- Calls on other sets than that of a builder change nothing about it. -/
theorem changeOf?_eq_none
    {called : Nat}
    {on : BuilderSet.Call}
    (numbered : family.IsNumbered)
    (different : called ≠ id.set) :
    family.changeOf? id (.on called on) = none := by
  rw [changeOf?]
  cases present : family.find? called with
  | none => rfl
  | some other =>
      have rejects : other.Rejects id := numbered.rejects present (Ne.symm different)
      cases on with
      | update target change =>
          refine if_neg ?_
          rintro ⟨rfl, accepted⟩
          rw [rejects.update] at accepted
          exact absurd accepted (by simp)
      | _ => rfl

/-- A builder stays under its identifier, and changes by successful updates of it only. -/
theorem IsNumbered.exists_get_perform
    (numbered : family.IsNumbered)
    (call : Call)
    (found : family.find? id.set = some set)
    (holds : set.get id = .ok level) :
    ∃ next changed, (family.perform call).find? id.set = some next ∧
      level.changedBy (family.changeOf? id call).toList = .ok changed ∧
      next.get id = .ok changed := by
  cases call with
  | make =>
      have old : id.set ≠ family.sets.length := by
        intro last
        rw [last, find?, List.getElem?_eq_none (Nat.le_refl _)] at found
        exact absurd found (by simp)
      exact ⟨set, level, (find?_make_of_ne old).trans found, rfl, holds⟩
  | on called on =>
      by_cases same : called = id.set
      · subst same
        obtain ⟨changed, changes, holdsAfter⟩ := BuilderSet.exists_get_apply on holds
        refine ⟨set.apply on, changed, ?_, ?_, holdsAfter⟩
        · rw [find?_on, if_pos rfl, found]
          rfl
        · rw [changeOf?, found]
          exact changes
      · rw [changeOf?_eq_none numbered same, find?_on, if_neg same]
        exact ⟨set, level, found, rfl, holds⟩

/-- An identifier that is owned after a call was owned before, or the call is the insertion
that answers with it. -/
theorem owns_perform_cases
    (found : (family.perform call).find? number = some set)
    (owned : set.Owns id) :
    ∃ before, family.find? number = some before ∧
      (before.Owns id ∨
        ∃ builder, call = .on number (.insert builder) ∧ id = before.nextId) := by
  cases call with
  | make =>
      by_cases last : number = family.sets.length
      · subst last
        obtain rfl := Option.some_inj.1 (find?_make_self.symm.trans found)
        exact absurd owned.2 (Nat.not_lt_zero _)
      · rw [find?_make_of_ne last] at found
        exact ⟨set, found, .inl owned⟩
  | on called on =>
      rw [find?_on] at found
      split at found
      case isFalse => exact ⟨set, found, .inl owned⟩
      case isTrue same =>
        subst same
        obtain ⟨before, present, rfl⟩ := Option.map_eq_some_iff.1 found
        refine ⟨before, present, ?_⟩
        cases on with
        | insert builder =>
            refine (BuilderSet.owns_insert_iff.1 owned).imp_right fun new => ?_
            exact ⟨builder, rfl, new⟩
        | _ => exact .inl ((BuilderSet.owns_apply_of_not_insert (by simp)).1 owned)

end Families

end Family
end TrustPolicy
