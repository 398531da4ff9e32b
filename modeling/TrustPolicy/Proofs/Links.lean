import Mathlib.Logic.Relation
import TrustPolicy.BuilderSet

/-!
# Links

The links of a set of builders are a relation between identifiers. A relation
has a cycle if following it leads from some identifier back to the same one.
Putting one link in place of another makes a cycle exactly if the new upper end
led to the lower end before.
-/

namespace TrustPolicy

/-- Whether following a relation leads from some identifier back to it. -/
def Cyclic (links : BuilderId → BuilderId → Prop) : Prop :=
  ∃ id, Relation.TransGen links id id

/-- A relation with one identifier linked to a new upper end, or to none. -/
def Relinked
    (links : BuilderId → BuilderId → Prop)
    (child : BuilderId)
    (parent : Option BuilderId)
    (lower upper : BuilderId) : Prop :=
  if lower = child then parent = some upper else links lower upper

section Relinked

variable
  {links : BuilderId → BuilderId → Prop}
  {child lower upper id : BuilderId}
  {parent : Option BuilderId}

theorem relinked_self : Relinked links child parent child upper ↔ parent = some upper := by
  simp [Relinked]

theorem relinked_of_ne
    (different : lower ≠ child) :
    Relinked links child parent lower upper ↔ links lower upper := by
  simp [Relinked, different]

/-- A way along the changed links either is a way along the old ones, or it last
takes the new link and goes on along old ones. -/
theorem transGen_relinked
    (way : Relation.TransGen (Relinked links child parent) lower upper) :
    Relation.TransGen links lower upper ∨
      Relation.ReflTransGen links lower child ∧
        ∃ id, parent = some id ∧ Relation.ReflTransGen links id upper := by
  induction way with
  | @single upper step =>
      by_cases atChild : lower = child
      · subst atChild
        exact .inr ⟨.refl, upper, relinked_self.1 step, .refl⟩
      · exact .inl (.single ((relinked_of_ne atChild).1 step))
  | @tail middle upper _ step inductionHypothesis =>
      by_cases atChild : middle = child
      · subst atChild
        refine .inr ⟨?_, upper, relinked_self.1 step, .refl⟩
        rcases inductionHypothesis with old | ⟨below, _⟩
        · exact old.to_reflTransGen
        · exact below
      · have oldStep : links middle upper := (relinked_of_ne atChild).1 step
        rcases inductionHypothesis with old | ⟨below, id, new, above⟩
        · exact .inl (old.tail oldStep)
        · exact .inr ⟨below, id, new, above.tail oldStep⟩

/-- A way to the child takes no link of the child before it ends, so the change
leaves some way to the child. -/
theorem reflTransGen_relinked_of_reflTransGen
    (way : Relation.ReflTransGen links lower child) :
    Relation.ReflTransGen (Relinked links child parent) lower child := by
  induction way using Relation.ReflTransGen.head_induction_on with
  | refl => exact .refl
  | @head lower middle step _ inductionHypothesis =>
      by_cases atChild : lower = child
      · rw [atChild]
      · exact .head ((relinked_of_ne atChild).2 step) inductionHypothesis

/-- Changing one link of acyclic links makes a cycle exactly if the new upper end
leads to the lower end. -/
theorem cyclic_relinked_iff
    (acyclic : ¬Cyclic links) :
    Cyclic (Relinked links child parent) ↔
      ∃ id, parent = some id ∧ Relation.ReflTransGen links id child := by
  constructor
  · rintro ⟨lower, way⟩
    rcases transGen_relinked way with old | ⟨below, id, new, above⟩
    · exact absurd ⟨lower, old⟩ acyclic
    · exact ⟨id, new, above.trans below⟩
  · rintro ⟨id, new, above⟩
    have back : Relation.ReflTransGen (Relinked links child parent) id child :=
      reflTransGen_relinked_of_reflTransGen above
    exact ⟨child, .head' (relinked_self.2 new) back⟩

end Relinked

namespace BuilderSet

/-- Whether a builder of the set has another one as its parent. -/
def LinksTo
    (set : BuilderSet)
    (lower upper : BuilderId) : Prop :=
  set.parent lower = .ok (some upper)

theorem linksTo_iff
    {set : BuilderSet}
    {lower upper : BuilderId} :
    set.LinksTo lower upper ↔ set.Owns lower ∧ set.parentAt lower.index = some upper := by
  by_cases owned : set.Owns lower
  · simp [LinksTo, parent_of_owns owned, owned]
  · simp [LinksTo, parent_of_not_owns owned, owned]

end BuilderSet
end TrustPolicy
