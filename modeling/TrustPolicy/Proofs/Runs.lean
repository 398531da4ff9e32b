/-!
# Runs

A run carries out acts one after another. Its states are numbered: the state at
a position is the one in which the act at that position is carried out. What a
run keeps is what each of its acts keeps, and may refer to earlier positions.
-/

namespace TrustPolicy

/-- The state in which the act at a position of a run is carried out. -/
def stateAt
    (step : σ → α → σ)
    (start : σ)
    (acts : List α)
    (position : Nat) : σ :=
  (acts.take position).foldl step start

section States

variable
  {step : σ → α → σ}
  {start : σ}
  {acts : List α}
  {act : α}
  {position : Nat}

@[simp] theorem stateAt_zero : stateAt step start acts 0 = start := rfl

/-- An act leads to the state at the next position. -/
theorem stateAt_succ_of_some
    (present : acts[position]? = some act) :
    stateAt step start acts (position + 1) = step (stateAt step start acts position) act := by
  rw [stateAt, List.take_add_one, present, List.foldl_append]
  rfl

/-- A run that has ended stays in its last state. -/
theorem stateAt_succ_of_none
    (ended : acts[position]? = none) :
    stateAt step start acts (position + 1) = stateAt step start acts position := by
  rw [stateAt, List.take_add_one, ended, Option.toList_none, List.append_nil, ← stateAt]

/-- What no act takes away stays from one position to all later ones. -/
theorem stateAt_of_le
    {motive : σ → Prop}
    {first last : Nat}
    (ordered : first ≤ last)
    (initially : motive (stateAt step start acts first))
    (kept : ∀ position act, first ≤ position → position < last →
      acts[position]? = some act →
      motive (stateAt step start acts position) →
      motive (step (stateAt step start acts position) act)) :
    motive (stateAt step start acts last) := by
  induction ordered with
  | refl => exact initially
  | @step position ordered inductionHypothesis =>
      have before : motive (stateAt step start acts position) :=
        inductionHypothesis fun earlier act firstLe ltPosition =>
          kept earlier act firstLe (Nat.lt_succ_of_lt ltPosition)
      cases present : acts[position]? with
      | none =>
          rw [stateAt_succ_of_none present]
          exact before
      | some act =>
          rw [stateAt_succ_of_some present]
          exact kept position act ordered (Nat.lt_succ_self position) present before

end States

/-- What holds between two positions and at the second one holds between the first one
and the next. -/
theorem forall_between_succ
    {holds : Nat → Prop}
    {first last : Nat}
    (before : ∀ between, first ≤ between → between < last → holds between)
    (here : holds last) :
    ∀ between, first ≤ between → between < last + 1 → holds between := by
  intro between firstLe ltSucc
  rcases Nat.lt_succ_iff_lt_or_eq.1 ltSucc with earlier | rfl
  · exact before between firstLe earlier
  · exact here

end TrustPolicy
