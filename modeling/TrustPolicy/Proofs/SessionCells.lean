import TrustPolicy.Proofs.Confinement
import TrustPolicy.Proofs.PolicyCells

/-!
# Cells of sessions

A session calls its cells by their names, and a step may put a new cell under a name.
The cell of a name is what the calls make of it that were made since then: steps on
other objects, and on cells of other names, leave it alone. So it has the history of
these calls, as the cells of the session's policies have that of the calls on them.
-/

namespace TrustPolicy

open CacheCell (cellAfter cellAfter_append)

/-- The name of the cell that a step makes or calls. -/
def Step.cell? : Step → Option String
  | .value (.makeCell name) => some name
  | .value (.viewCell name) => some name
  | .value (.invalidateCell name) => some name
  | .value (.initializeCell name _) => some name
  | _ => none

/-- A call on a cell of a session. -/
abbrev CellCall := CacheCell.Call String String (Option CacheCell.Status)

/-- The calls on the cell of a step since it was made, if it was, after the step. An initializer
begins without a status that it has seen. -/
def Step.cellCalls (calls : Option (List CellCall)) : Step → Option (List CellCall)
  | .value (.makeCell _) => some []
  | .value (.viewCell _) => calls.map (· ++ [.get, .isPopulated])
  | .value (.invalidateCell _) => calls.map (· ++ [.invalidate])
  | .value (.initializeCell _ outcome) =>
      calls.map (· ++ [.elsewhere fun _ => none, .getOrTryInit (ValueStep.initializer outcome)])
  | _ => calls

namespace Session

/-- The calls on the cell of a name since it was made, if it was, after steps. -/
def cellCalls
    (name : String)
    (steps : List Step) : Option (List CellCall) :=
  steps.foldl (fun calls step => if step.cell? = some name then step.cellCalls calls else calls)
    none

section Leaving

variable
  {session : Session}
  {name : String}

/-- Whether an attempt leaves the cell of a name as it is. -/
def LeavesCell
    (session : Session)
    (name : String)
    (attempt : Except Answer (Answer × Session)) : Prop :=
  session.LeadsTo (fun next => next.cells.find? name = session.cells.find? name) attempt

theorem leavesCell_bind
    {attempt : Except Answer α}
    {rest : α → Except Answer (Answer × Session)}
    (leaves : ∀ value, session.LeavesCell name (rest value)) :
    session.LeavesCell name (attempt >>= rest) :=
  leadsTo_bind rfl fun value _ => leaves value

end Leaving

end Session

section Leaving

open Session

variable
  {session : Session}
  {name : String}

theorem ValueStep.leavesCell
    (step : ValueStep)
    (other : (Step.value step).cell? ≠ some name) :
    session.LeavesCell name (step.run session) := by
  have different {made : String}
      (unlike : some made ≠ some name) : name ≠ made := fun same => unlike (same ▸ rfl)
  cases step with
  | makeCell made => exact Bindings.find?_assign_of_ne (different other)
  | invalidateCell called =>
      exact leavesCell_bind fun _ => Bindings.find?_assign_of_ne (different other)
  | initializeCell called outcome =>
      refine leavesCell_bind fun _ => ?_
      dsimp only
      split <;> exact Bindings.find?_assign_of_ne (different other)
  | viewCell _ | makeAnchorSet _ _ | viewAnchorSet _ | defaultBuilder _ _ =>
      exact leavesCell_bind fun _ => rfl
  | insertAnchor _ _ | extendAnchorSet _ _ | findAnchor _ _ | compareAnchorSets _ _ =>
      exact leavesCell_bind fun _ => leavesCell_bind fun _ => rfl
  | makeDefaultSources _ given =>
      cases given with
      | none => rfl
      | some _ => exact leavesCell_bind fun _ => leavesCell_bind fun _ => rfl
  | installDefault _ _ =>
      refine leavesCell_bind fun _ => ?_
      split <;> rfl
  | getDefault _ =>
      rw [ValueStep.run]
      split <;> rfl

end Leaving

namespace Session

section Tracking

variable
  {session : Session}
  {name : String}

/-- Only steps that name a cell change it. -/
theorem find?_cells_step_of_ne
    {step : Step}
    (other : step.cell? ≠ some name) :
    (session.step step).2.cells.find? name = session.cells.find? name := by
  have leaves : session.LeavesCell name (session.attempt step) := by
    cases step with
    | source step =>
        apply step.confined.mono
        rintro _ ⟨_, _, _, rfl⟩
        rfl
    | builder step =>
        apply step.confined.mono
        rintro _ ⟨_, _, _, _, _, rfl⟩
        rfl
    | policy step =>
        apply step.confined.mono
        rintro _ ⟨_, _, _, _, _, _, rfl⟩
        rfl
    | value step => exact step.leavesCell other
    | events => rfl
  rw [step_eq_settle]
  exact leaves

/-- A step that looks a cell up adds its calls to those on the cell, if there is one. -/
theorem find?_cells_settle_look
    {calls : Option (List CellCall)}
    {more : List CellCall}
    {use : CacheCell String → Except Answer (Answer × Session)}
    (tracked : session.cells.find? name = calls.map (cellAfter · none))
    (goesOn : ∀ before, session.cells.find? name = some (cellAfter before none) →
      (session.settle (use (cellAfter before none))).2.cells.find? name =
        some (cellAfter (before ++ more) none)) :
    (session.settle (look session.cells name >>= use)).2.cells.find? name =
      (calls.map (· ++ more)).map (cellAfter · none) := by
  cases calls with
  | none =>
      rw [settle_look_of_none tracked]
      exact tracked
  | some before =>
      rw [settle_look_of_some tracked]
      exact goesOn before tracked

/-- The cell of a name is what the calls on it make of it, step by step. -/
theorem find?_cells_step
    {calls : Option (List CellCall)}
    (tracked : session.cells.find? name = calls.map (cellAfter · none))
    (step : Step) :
    (session.step step).2.cells.find? name =
      (if step.cell? = some name then step.cellCalls calls else calls).map
        (cellAfter · none) := by
  by_cases named : step.cell? = some name
  case neg => rw [find?_cells_step_of_ne named, if_neg named, tracked]
  rw [step_eq_settle, if_pos named]
  cases step with
  | value step =>
      cases step with
      | makeCell made =>
          obtain rfl : made = name := Option.some_inj.1 named
          exact Bindings.find?_assign_self
      | viewCell called =>
          obtain rfl : called = name := Option.some_inj.1 named
          refine find?_cells_settle_look tracked fun before bound => ?_
          rw [cellAfter_append]
          exact bound
      | invalidateCell called =>
          obtain rfl : called = name := Option.some_inj.1 named
          refine find?_cells_settle_look tracked fun before bound => ?_
          rw [cellAfter_append]
          exact Bindings.find?_assign_self
      | initializeCell called outcome =>
          obtain rfl : called = name := Option.some_inj.1 named
          refine find?_cells_settle_look tracked fun before bound => ?_
          rw [cellAfter_append]
          dsimp only
          split <;> exact Bindings.find?_assign_self
      | _ => exact absurd named (by simp [Step.cell?])
  | _ => exact absurd named (by simp [Step.cell?])

/-- The cell of a name is what the calls since it was made lead to. -/
theorem find?_cells_run
    (steps : List Step)
    (name : String) :
    (initial.run steps).2.cells.find? name = (cellCalls name steps).map (cellAfter · none) := by
  unfold cellCalls
  have tracked :
      initial.cells.find? name = (none : Option (List CellCall)).map (cellAfter · none) := rfl
  -- The calls so far may have been made by any session that they tell the cell of.
  generalize initial = session, (none : Option (List CellCall)) = calls at tracked ⊢
  induction steps generalizing session calls with
  | nil => exact tracked
  | cons step rest inductionHypothesis =>
      exact inductionHypothesis _ _ (find?_cells_step tracked step)

end Tracking

/-- The cells of a run of steps are what the calls on them have made of them. -/
structure KeepsToCalls (steps : List Step) : Prop where
  /-- The cells that steps have made and called by their names. -/
  named : ∀ name,
    (initial.run steps).2.cells.find? name = (cellCalls name steps).map (cellAfter · none)
  /-- The cells in which policies keep their anchors. -/
  anchors : ∀ policy,
    ((initial.run steps).2.world.policies.get policy).anchors =
      cellAfter (World.initial.cellCallsAlong (World.anchorCalls policy)
        (initial.callsOfRun steps)) World.initial
  /-- The cells in which policies keep their trust managers. -/
  managers : ∀ policy,
    ((initial.run steps).2.world.policies.get policy).manager =
      cellAfter (World.initial.cellCallsAlong (World.managerCalls policy)
        (initial.callsOfRun steps)) World.initial

theorem keepsToCalls (steps : List Step) : KeepsToCalls steps where
  named name := find?_cells_run steps name
  anchors policy := by
    rw [world_run]
    exact World.anchors_performAll _
  managers policy := by
    rw [world_run]
    exact World.manager_performAll _

end Session

namespace CacheCell

/-- Whatever calls are made on a cell, with whatever initializers, the history of the cell tells
what it holds and what is answered. The cells of sessions, and those of their policies, are such
cells, whatever steps are taken. -/
theorem refinesHistories :
    (∀ {α ε σ : Type} (calls : List (Call α ε σ)) (start : σ), RefinesHistory calls start) ∧
      ∀ steps, Session.KeepsToCalls steps :=
  ⟨refinesHistory, Session.keepsToCalls⟩

/-- Callers who each make an object, with its number, while the state says that they can. The
first one fails, the second one fills the cell for the next two, and the last one fails after two
invalidations. A session has a cell that is filled after a failure. -/
theorem refinesHistories_of_several_callers :
    let ask (caller : String) : Call (Nat × String) String (Bool × Nat) :=
      .getOrTryInit fun (available, made) =>
        if available then (.ok (made, caller), (available, made + 1))
        else (.error caller, (available, made))
    let switch (available : Bool) : Call (Nat × String) String (Bool × Nat) :=
      .elsewhere fun (_, made) => (available, made)
    let calls :=
      [.invalidate, ask "first", switch true, ask "second", ask "third", switch false,
        ask "fourth", .invalidate, .invalidate, ask "fifth"]
    let start := (false, 0)
    let steps : List Step :=
      [.value (.makeCell "cell"), .value (.initializeCell "cell" (.error "unavailable")),
        .value (.initializeCell "cell" (.ok "first")), .value (.makeCell "other"),
        .value (.initializeCell "cell" (.ok "second")), .value (.invalidateCell "other")]
    answerAt calls start 1 = some (.given (.error "first")) ∧
      RanAt calls start 3 (.ok (0, "second")) ∧
      answerAt calls start 4 = some (.given (.ok (0, "second"))) ∧
      (∀ outcome, ¬RanAt calls start 6 outcome) ∧
      answerAt calls start 6 = some (.given (.ok (0, "second"))) ∧
      answerAt calls start 7 = some (.truth true) ∧
      answerAt calls start 8 = some (.truth false) ∧
      answerAt calls start 9 = some (.given (.error "fifth")) ∧
      (Session.initial.run steps).2.cells.find? "cell" = some ⟨some "first"⟩ := by
  intro ask switch calls start steps
  obtain ⟨refines, keepsTo⟩ := refinesHistories
  have refines : RefinesHistory calls start := refines calls start
  have filled : firstValue? (historyAt calls start 6) = some (0, "second") := rfl
  have since : sinceInvalidation (historyAt calls start 7) =
      [.ran (.error "first"), .ran (.ok (0, "second"))] := rfl
  have idle : ∀ outcome, ¬RanAt calls start 6 outcome := by
    intro outcome ran
    obtain ⟨_, _, unfilled, _⟩ := (refines.runs 6 outcome).1 ran
    rw [refines.holds 6, filled] at unfilled
    exact absurd unfilled (Option.some_ne_none _)
  have second : RanAt calls start 3 (.ok (0, "second")) :=
    (refines.runs 3 _).2 ⟨_, rfl, (refines.holds 3).trans rfl, rfl⟩
  obtain ⟨dropped, told, tells⟩ := refines.tells 7 rfl
  obtain rfl : dropped = true := tells.2 ⟨(0, "second"), by simp [since]⟩
  have again : answerAt calls start 8 = some (.truth false) :=
    refines.again 7 8 (by decide) rfl rfl fun between _ later earlier => by omega
  exact ⟨rfl, second, rfl, idle, rfl, told, again, rfl, ((keepsTo steps).named "cell").trans rfl⟩

end CacheCell
end TrustPolicy
