import TrustPolicy.Text.Layout
import TrustPolicy.Text.Quoted

/-!
# Cache cells

A cache cell is empty or holds a value. It is filled by an initializer that may
fail, and that runs while the cell is locked: whoever looks at the cell from
inside the initializer finds it locked. A failed initializer leaves it empty.
-/

namespace TrustPolicy

/-- A slot for a value that is computed on first use. -/
structure CacheCell (α : Type) where
  slot : Option α
  deriving DecidableEq

namespace CacheCell

/-- The cell without a value. -/
def empty : CacheCell α := ⟨none⟩

/-- The value in the cell. -/
def get? (cell : CacheCell α) : Option α :=
  cell.slot

/-- Whether the cell holds a value. -/
def isPopulated (cell : CacheCell α) : Bool :=
  cell.slot.isSome

/-- The value in the cell, or the result of the initializer, which runs on some
state and fills the cell if it succeeds. -/
def getOrTryInit
    (cell : CacheCell α)
    (initializer : σ → Except ε α × σ)
    (state : σ) : Except ε α × CacheCell α × σ :=
  match cell.slot with
  | some value => (.ok value, cell, state)
  | none =>
      match initializer state with
      | (.ok value, next) => (.ok value, ⟨some value⟩, next)
      | (.error error, next) => (.error error, cell, next)

/-- The emptied cell, and whether it held a value. -/
def invalidate (cell : CacheCell α) : CacheCell α × Bool :=
  (empty, cell.isPopulated)

/-- What an observer finds: a locked cell, or whether there is a value. -/
inductive Status
  | empty
  | populated
  | locked
  deriving DecidableEq

/-- The status of a cell that no initializer is running for. -/
def status (cell : CacheCell α) : Status :=
  if cell.isPopulated then .populated else .empty

/-- A status in a word. -/
def Status.word : Status → String
  | .empty => "empty"
  | .populated => "populated"
  | .locked => "locked"

/-- A status as the description of a cell. -/
def Status.describe (status : Status) : String :=
  Text.wrapped "CacheCell" (Text.quote status.word)

/-- The cell with its status. -/
def describe (cell : CacheCell α) : String :=
  cell.status.describe

@[simp] theorem getOrTryInit_populated
    (value : α)
    (initializer : σ → Except ε α × σ)
    (state : σ) :
    (⟨some value⟩ : CacheCell α).getOrTryInit initializer state =
      (.ok value, ⟨some value⟩, state) := rfl

theorem isPopulated_of_slot_eq_none
    {cell : CacheCell α}
    (unfilled : cell.slot = none) :
    cell.isPopulated = false := by
  rw [isPopulated, unfilled]
  rfl

/-- An initializer that succeeds fills an empty cell. -/
theorem getOrTryInit_of_ok
    {cell : CacheCell α}
    {initializer : σ → Except ε α × σ}
    {state next : σ}
    {value : α}
    (unfilled : cell.isPopulated = false)
    (outcome : initializer state = (.ok value, next)) :
    cell.getOrTryInit initializer state = (.ok value, ⟨some value⟩, next) := by
  obtain ⟨slot⟩ := cell
  cases slot with
  | none => simp [getOrTryInit, outcome]
  | some found => exact absurd unfilled (by simp [isPopulated])

/-- An initializer that fails leaves an empty cell empty. -/
theorem getOrTryInit_of_error
    {cell : CacheCell α}
    {initializer : σ → Except ε α × σ}
    {state next : σ}
    {error : ε}
    (unfilled : cell.isPopulated = false)
    (outcome : initializer state = (.error error, next)) :
    cell.getOrTryInit initializer state = (.error error, cell, next) := by
  obtain ⟨slot⟩ := cell
  cases slot with
  | none => simp [getOrTryInit, outcome]
  | some found => exact absurd unfilled (by simp [isPopulated])

@[simp] theorem get?_invalidate (cell : CacheCell α) :
    cell.invalidate.1.get? = none := rfl

end CacheCell
end TrustPolicy
