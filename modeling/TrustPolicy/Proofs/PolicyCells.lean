import TrustPolicy.Proofs.Calls
import TrustPolicy.Proofs.CellHistories

/-!
# Cells of policies

A policy has two cells. What the calls on a world make of them is what the calls
on the cells make of them that follow from it: reads of the anchors fill the one and
invalidations empty it, requests for the trust manager fill the other. So both have
histories, with initializers that run on the world as it is then.
-/

namespace TrustPolicy

namespace World

open CacheCell (Scene cellAfter sceneAt_length)

/-- A call on a cell of a policy. -/
abbrev PolicyCellCall (α : Type) := CacheCell.Call α PolicyError World

/-- The calls on a policy's cell for anchors that follow from a call on the world. -/
def anchorCalls
    (policy : PolicyId)
    (world : World)
    (call : Call) : List (PolicyCellCall Snapshot) :=
  if world.policies.Holds policy then
    if call.Reads world policy then
      [.elsewhere fun _ => world,
        .getOrTryInit (aggregate (world.policies.get policy).settings.entryRefs)]
    else if call.Invalidates world policy then [.invalidate]
    else []
  else []

/-- The calls on a policy's cell for its trust manager that follow from a call on the world. -/
def managerCalls
    (policy : PolicyId)
    (world : World) : Call → List (PolicyCellCall TrustManager)
  | .trustManager asked =>
      if asked = policy ∧ world.policies.Holds policy then
        [.elsewhere fun _ => world,
          .getOrTryInit (createManager (world.policies.get policy).factory
            (world.policies.get policy).this)]
      else []
  | _ => []

/-- The calls on a cell that follow from calls on the world in order. -/
def cellCallsAlong
    (cellCalls : World → Call → List (PolicyCellCall α))
    (world : World) : List Call → List (PolicyCellCall α)
  | [] => []
  | call :: rest => cellCalls world call ++ cellCallsAlong cellCalls (world.perform call) rest

section Cells

variable
  {world : World}
  {policy : PolicyId}
  {call : Call}

/-! ## Initializers -/

theorem policies_aggregate
    {entries : List EntryRef} :
    (aggregate entries world).2.policies = world.policies := by
  have gathered : (world.gather AnchorSet.empty entries).2.policies = world.policies :=
    policies_gather
  rw [aggregate]
  split
  case h_1 failed => rwa [failed] at gathered
  case h_2 supplied => rwa [supplied] at gathered

theorem policies_createManager
    {factory : Option FactoryId} :
    (createManager factory policy world).2.policies = world.policies := by
  cases factory with
  | none => rfl
  | some id =>
      unfold createManager requestManager
      cases failing : (world.factories.get id).failing <;> simp only [failing] <;> rfl

/-- No policy is lost to an initializer that leaves the policies alone, whether it runs or not. -/
theorem holds_getOrTryInit
    {initializer : World → Except PolicyError α × World}
    (cell : CacheCell α)
    (held : world.policies.Holds policy)
    (samePolicies : (initializer world).2.policies = world.policies) :
    (cell.getOrTryInit initializer world).2.2.policies.Holds policy := by
  obtain ⟨slot⟩ := cell
  cases slot with
  | some value => exact held
  | none =>
      rw [← samePolicies] at held
      unfold CacheCell.getOrTryInit
      generalize initializer world = ran at held
      obtain ⟨error | value, next⟩ := ran <;> exact held

theorem anchors_trustAnchors
    (held : world.policies.Holds policy) :
    ((world.trustAnchors policy).2.policies.get policy).anchors =
      ((world.policies.get policy).anchors.getOrTryInit
        (aggregate (world.policies.get policy).settings.entryRefs) world).2.1 :=
  congrArg Policy.anchors (Arena.get_modify_self (holds_getOrTryInit _ held policies_aggregate))

theorem manager_trustManager
    (held : world.policies.Holds policy) :
    ((world.trustManager policy).2.policies.get policy).manager =
      ((world.policies.get policy).manager.getOrTryInit
        (createManager (world.policies.get policy).factory (world.policies.get policy).this)
          world).2.1 :=
  congrArg Policy.manager (Arena.get_modify_self (holds_getOrTryInit _ held policies_createManager))

/-! ## Calls -/

/-- What a call makes of the cell for anchors is what the calls on the cell make of it. -/
theorem anchors_perform
    (world : World)
    (call : Call)
    (state : World) :
    ((world.perform call).policies.get policy).anchors =
      (Scene.performAll ⟨(world.policies.get policy).anchors, state⟩
        (world.anchorCalls policy call)).cell := by
  unfold anchorCalls
  by_cases held : world.policies.Holds policy
  case neg =>
    obtain ⟨_, _, _, after, -⟩ := get_perform_of_not_holds call held
    rw [after, if_neg held, Arena.get_of_not_holds held]
    rfl
  rw [if_pos held]
  by_cases reads : call.Reads world policy
  case pos =>
    rw [perform_of_reads reads, anchors_trustAnchors held, if_pos reads]
    rfl
  rw [if_neg reads]
  by_cases invalidates : call.Invalidates world policy
  case pos =>
    rw [get_perform_of_invalidates invalidates, if_pos invalidates]
    rfl
  obtain ⟨_, after⟩ := get_perform_of_neither held reads invalidates
  rw [after, if_neg invalidates]
  rfl

theorem managerCalls_eq_nil
    (idle : call = .trustManager policy → ¬world.policies.Holds policy) :
    world.managerCalls policy call = [] := by
  cases call with
  | trustManager asked => exact if_neg fun ⟨same, held⟩ => idle (same ▸ rfl) held
  | _ => rfl

/-- The same for the cell for the trust manager. -/
theorem manager_perform
    (world : World)
    (call : Call)
    (state : World) :
    ((world.perform call).policies.get policy).manager =
      (Scene.performAll ⟨(world.policies.get policy).manager, state⟩
        (world.managerCalls policy call)).cell := by
  by_cases held : world.policies.Holds policy
  case neg =>
    obtain ⟨_, _, _, after, -⟩ := get_perform_of_not_holds call held
    rw [after, managerCalls_eq_nil fun _ => held, Arena.get_of_not_holds held]
    rfl
  by_cases asks : call = .trustManager policy
  case pos =>
    rw [asks, perform, manager_trustManager held, managerCalls, if_pos ⟨rfl, held⟩]
    rfl
  rw [manager_perform_of_ne held asks, managerCalls_eq_nil fun same => absurd same asks]
  rfl

/-- What each call makes of a cell, all make of it in order. -/
theorem cell_performAll
    (cell : World → CacheCell α)
    {cellCalls : World → Call → List (PolicyCellCall α)}
    (follows : ∀ world call state,
      cell (world.perform call) =
        (Scene.performAll ⟨cell world, state⟩ (cellCalls world call)).cell)
    (world state : World)
    (calls : List Call) :
    cell (world.performAll calls) =
      (Scene.performAll ⟨cell world, state⟩ (world.cellCallsAlong cellCalls calls)).cell := by
  induction calls generalizing world state with
  | nil => rfl
  | cons call rest inductionHypothesis =>
      -- The rest begins with the state that the call's own calls leave, which may be any.
      have first := follows world call state
      have later : world.performAll (call :: rest) = (world.perform call).performAll rest := rfl
      rw [later, inductionHypothesis _
        (Scene.performAll ⟨cell world, state⟩ (cellCalls world call)).state, first,
        cellCallsAlong, Scene.performAll_append]

/-- The cell for the anchors is what the calls on it make of it. Before the policy is built, there
are none. -/
theorem anchors_performAll (calls : List Call) :
    ((initial.performAll calls).policies.get policy).anchors =
      cellAfter (initial.cellCallsAlong (anchorCalls policy) calls) initial := by
  rw [cellAfter, sceneAt_length]
  exact cell_performAll (fun world => (world.policies.get policy).anchors)
    anchors_perform initial initial calls

/-- The same for the cell for the trust manager. -/
theorem manager_performAll (calls : List Call) :
    ((initial.performAll calls).policies.get policy).manager =
      cellAfter (initial.cellCallsAlong (managerCalls policy) calls) initial := by
  rw [cellAfter, sceneAt_length]
  exact cell_performAll (fun world => (world.policies.get policy).manager)
    manager_perform initial initial calls

end Cells

end World
end TrustPolicy
