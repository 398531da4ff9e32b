import Mathlib.Data.List.DropRight
import TrustPolicy.CacheCell
import TrustPolicy.Proofs.Runs

/-!
# Histories of cells

What a cell holds is told by its history, in which initializers note that they run
and with which outcome. It is the value of the first successful one since the last
invalidation. Initializers run exactly for the calls that find the cell empty, so
that at most one of them succeeds before the next invalidation.
-/

namespace TrustPolicy
namespace CacheCell

/-! ## Calls -/

/-- A call on a cell, or a change elsewhere of the state that initializers run on. Callers whose
errors are of several types share the sum of these. -/
inductive Call (α ε σ : Type)
  | getOrTryInit (initializer : σ → Except ε α × σ)
  | get
  | isPopulated
  | invalidate
  | elsewhere (change : σ → σ)

/-- What is answered to a call. -/
inductive Answer (α ε : Type)
  | given (result : Except ε α)
  | found (value : Option α)
  | truth (value : Bool)
  | done

/-- A cell, and the state that its initializers run on. -/
structure Scene (α σ : Type) where
  cell : CacheCell α
  state : σ

/-- The answer to a call, and the scene after it. -/
def Scene.perform (scene : Scene α σ) : Call α ε σ → Answer α ε × Scene α σ
  | .getOrTryInit initializer =>
      let (result, cell, state) := scene.cell.getOrTryInit initializer scene.state
      (.given result, ⟨cell, state⟩)
  | .get => (.found scene.cell.get?, scene)
  | .isPopulated => (.truth scene.cell.isPopulated, scene)
  | .invalidate =>
      let (cell, dropped) := scene.cell.invalidate
      (.truth dropped, { scene with cell })
  | .elsewhere change => (.done, { scene with state := change scene.state })

/-- The scene after calls in order. -/
def Scene.performAll
    (scene : Scene α σ)
    (calls : List (Call α ε σ)) : Scene α σ :=
  calls.foldl (fun scene call => (scene.perform call).2) scene

namespace Scene

theorem performAll_append
    {scene : Scene α σ}
    {calls more : List (Call α ε σ)} :
    scene.performAll (calls ++ more) = (scene.performAll calls).performAll more :=
  List.foldl_append

@[simp] theorem perform_get (scene : Scene α σ) :
    scene.perform (.get : Call α ε σ) = (.found scene.cell.get?, scene) := rfl

@[simp] theorem perform_isPopulated (scene : Scene α σ) :
    scene.perform (.isPopulated : Call α ε σ) = (.truth scene.cell.get?.isSome, scene) := rfl

@[simp] theorem perform_invalidate (scene : Scene α σ) :
    scene.perform (.invalidate : Call α ε σ) =
      (.truth scene.cell.get?.isSome, ⟨empty, scene.state⟩) := rfl

variable
  {scene : Scene α σ}
  {initializer : σ → Except ε α × σ}

theorem perform_of_filled
    {value : α}
    (filled : scene.cell.get? = some value) :
    scene.perform (.getOrTryInit initializer) = (.given (.ok value), scene) := by
  obtain ⟨⟨slot⟩, state⟩ := scene
  obtain rfl : slot = some value := filled
  rfl

/-- An initializer that runs decides what is answered, and what the cell holds then. -/
theorem perform_of_unfilled
    {outcome : Except ε α}
    {next : σ}
    (unfilled : scene.cell.get? = none)
    (runs : initializer scene.state = (outcome, next)) :
    scene.perform (.getOrTryInit initializer) =
      (.given outcome, ⟨⟨outcome.toOption⟩, next⟩) := by
  have unpopulated : scene.cell.isPopulated = false := isPopulated_of_slot_eq_none unfilled
  unfold perform
  cases outcome with
  | ok value => simp only [getOrTryInit_of_ok unpopulated runs, Except.toOption]
  | error error =>
      have unchanged : scene.cell = ⟨none⟩ := congrArg CacheCell.mk unfilled
      simp only [getOrTryInit_of_error unpopulated runs, Except.toOption]
      rw [unchanged]

end Scene

/-! ## Histories -/

/-- What happens to a cell: an initializer runs for it, or it is invalidated. -/
inductive Event (α ε : Type)
  | ran (outcome : Except ε α)
  | invalidated

namespace Event

/-- Whether an event is the run of an initializer. -/
def isRun : Event α ε → Bool
  | .ran _ => true
  | .invalidated => false

/-- The value of an initializer that succeeds. -/
def value? : Event α ε → Option α
  | .ran outcome => outcome.toOption
  | .invalidated => none

theorem value?_eq_some_iff
    {event : Event α ε}
    {value : α} :
    event.value? = some value ↔ event = .ran (.ok value) := by
  rcases event with (error | value) | - <;> simp [value?, Except.toOption]

end Event

/-- The events since the last invalidation, or all if there is none. -/
def sinceInvalidation (history : List (Event α ε)) : List (Event α ε) :=
  history.rtakeWhile Event.isRun

/-- The value of the first initializer since the last invalidation that succeeded. -/
def firstValue? (history : List (Event α ε)) : Option α :=
  (sinceInvalidation history).findSome? Event.value?

/-- Whether at most one initializer succeeded in each part of a history without an invalidation. -/
def SucceedsOnce (history : List (Event α ε)) : Prop :=
  ∀ part, part <:+: history → .invalidated ∉ part →
    (part.filterMap Event.value?).length ≤ 1

section Histories

variable
  {history part before : List (Event α ε)}
  {outcome : Except ε α}
  {event : Event α ε}

@[simp] theorem sinceInvalidation_concat_ran :
    sinceInvalidation (history ++ [.ran outcome]) =
      sinceInvalidation history ++ [.ran outcome] :=
  List.rtakeWhile_concat_pos _ _ _ rfl

@[simp] theorem sinceInvalidation_concat_invalidated :
    sinceInvalidation (history ++ [.invalidated]) = [] :=
  List.rtakeWhile_concat_neg _ _ _ Bool.false_ne_true

theorem sinceInvalidation_append
    (kept : .invalidated ∉ part) :
    sinceInvalidation (before ++ part) = sinceInvalidation before ++ part := by
  have runs : ∀ event ∈ part.reverse, event.isRun = true := by
    intro event present
    cases event with
    | ran outcome => rfl
    | invalidated => exact absurd (List.mem_reverse.1 present) kept
  unfold sinceInvalidation
  rw [List.rtakeWhile, List.reverse_append, List.takeWhile_append_of_pos runs,
    List.reverse_append, List.reverse_reverse, ← List.rtakeWhile]

/-- A value that is there stays the first one. -/
theorem firstValue?_concat_ran :
    firstValue? (history ++ [.ran outcome]) =
      (firstValue? history).or outcome.toOption := by
  unfold firstValue?
  rw [sinceInvalidation_concat_ran, List.findSome?_append, List.findSome?_singleton, Event.value?]

@[simp] theorem firstValue?_concat_invalidated :
    firstValue? (history ++ [.invalidated]) = none := by
  unfold firstValue?
  rw [sinceInvalidation_concat_invalidated, List.findSome?_nil]

theorem firstValue?_eq_none_iff :
    firstValue? history = none ↔ ∀ event ∈ sinceInvalidation history, event.value? = none :=
  List.findSome?_eq_none_iff

theorem isSome_firstValue?_iff :
    (firstValue? history).isSome = true ↔
      ∃ value, .ran (.ok value) ∈ sinceInvalidation history := by
  unfold firstValue?
  rw [List.findSome?_isSome_iff]
  constructor
  · rintro ⟨event, present, succeeds⟩
    obtain ⟨value, supplied⟩ := Option.isSome_iff_exists.1 succeeds
    exact ⟨value, Event.value?_eq_some_iff.1 supplied ▸ present⟩
  · rintro ⟨value, present⟩
    exact ⟨_, present, rfl⟩

theorem succeedsOnce_nil : SucceedsOnce ([] : List (Event α ε)) := by
  intro part within _
  rw [List.infix_nil.1 within]
  exact Nat.zero_le 1

/-- One more event keeps this if it is no success, or the first one since the last invalidation. -/
theorem SucceedsOnce.concat
    (once : SucceedsOnce history)
    (first : event.value? = none ∨ firstValue? history = none) :
    SucceedsOnce (history ++ [event]) := by
  intro part within kept
  rcases List.infix_concat_iff.1 within with atEnd | earlier
  case inr => exact once part earlier kept
  rcases List.suffix_concat_iff.1 atEnd with rfl | ⟨before, rfl, ends⟩
  case inl => exact Nat.zero_le 1
  have keptBefore : .invalidated ∉ before := fun present =>
    kept (List.mem_append_left _ present)
  rw [List.filterMap_append, List.length_append]
  rcases first with fails | unfilled
  · -- The event adds no value, so those before it count alone.
    have counted := once before ends.isInfix keptBefore
    simpa [fails] using counted
  · -- No event before this one since the last invalidation has a value.
    obtain ⟨earlier, rfl⟩ := ends
    rw [firstValue?_eq_none_iff, sinceInvalidation_append keptBefore] at unfilled
    have none : before.filterMap Event.value? = [] := by
      rw [List.filterMap_eq_nil_iff]
      exact fun event present => unfilled event (List.mem_append_right _ present)
    rw [none, List.length_nil, Nat.zero_add]
    exact List.length_filterMap_le _ [event]

end Histories

/-! ## Records -/

/-- A scene with the history of its cell. -/
structure Record (α ε σ : Type) extends Scene α σ where
  history : List (Event α ε)

/-- The initializer that does the same and notes that it runs. -/
def noting
    (initializer : σ → Except ε α × σ)
    (noted : σ × List (Event α ε)) : Except ε α × σ × List (Event α ε) :=
  let (outcome, next) := initializer noted.1
  (outcome, next, noted.2 ++ [.ran outcome])

/-- The call that does the same, with an initializer that notes that it runs. -/
def Call.noting : Call α ε σ → Call α ε (σ × List (Event α ε))
  | .getOrTryInit initializer => .getOrTryInit (CacheCell.noting initializer)
  | .get => .get
  | .isPopulated => .isPopulated
  | .invalidate => .invalidate
  | .elsewhere change => .elsewhere fun (state, history) => (change state, history)

/-- The history to which the caller adds that it invalidates the cell. -/
def Call.note : Call α ε σ → List (Event α ε) → List (Event α ε)
  | .invalidate, history => history ++ [.invalidated]
  | .getOrTryInit _, history | .get, history | .isPopulated, history
  | .elsewhere _, history => history

theorem noting_eq
    {initializer : σ → Except ε α × σ}
    {state next : σ}
    {outcome : Except ε α}
    {history : List (Event α ε)}
    (runs : initializer state = (outcome, next)) :
    noting initializer (state, history) = (outcome, next, history ++ [.ran outcome]) := by
  unfold noting
  rw [runs]

namespace Record

/-- The record after a call. -/
def after
    (record : Record α ε σ)
    (call : Call α ε σ) : Record α ε σ :=
  let next := (Scene.perform ⟨record.cell, (record.state, record.history)⟩ call.noting).2
  { cell := next.cell, state := next.state.1, history := call.note next.state.2 }

/-- What is answered to a call, and what it makes of a record. -/
inductive Becomes (record : Record α ε σ) : Call α ε σ → Answer α ε → Record α ε σ → Prop
  | held
      (initializer : σ → Except ε α × σ)
      (value : α)
      (filled : record.cell.get? = some value) :
      Becomes record (.getOrTryInit initializer) (.given (.ok value)) record
  | ran
      (initializer : σ → Except ε α × σ)
      (outcome : Except ε α)
      (next : σ)
      (unfilled : record.cell.get? = none)
      (runs : initializer record.state = (outcome, next)) :
      Becomes record (.getOrTryInit initializer) (.given outcome)
        ⟨⟨⟨outcome.toOption⟩, next⟩, record.history ++ [.ran outcome]⟩
  | got : Becomes record .get (.found record.cell.get?) record
  | asked : Becomes record .isPopulated (.truth record.cell.get?.isSome) record
  | invalidated :
      Becomes record .invalidate (.truth record.cell.get?.isSome)
        ⟨⟨empty, record.state⟩, record.history ++ [.invalidated]⟩
  | changed
      (change : σ → σ) :
      Becomes record (.elsewhere change) .done { record with state := change record.state }

section Asking

variable
  {record : Record α ε σ}
  {initializer : σ → Except ε α × σ}

theorem after_of_filled
    {value : α}
    (filled : record.cell.get? = some value) :
    record.after (.getOrTryInit initializer) = record := by
  have noted : (⟨record.cell, (record.state, record.history)⟩ : Scene α _).perform
      (.getOrTryInit (noting initializer)) = _ := Scene.perform_of_filled filled
  unfold after
  rw [Call.noting, noted]
  rfl

theorem after_of_unfilled
    {outcome : Except ε α}
    {next : σ}
    (unfilled : record.cell.get? = none)
    (runs : initializer record.state = (outcome, next)) :
    record.after (.getOrTryInit initializer) =
      ⟨⟨⟨outcome.toOption⟩, next⟩, record.history ++ [.ran outcome]⟩ := by
  have noted : (⟨record.cell, (record.state, record.history)⟩ : Scene α _).perform
      (.getOrTryInit (noting initializer)) = _ :=
    Scene.perform_of_unfilled unfilled (noting_eq runs)
  unfold after
  rw [Call.noting, noted]
  rfl

end Asking

theorem becomes_after
    (record : Record α ε σ)
    (call : Call α ε σ) :
    record.Becomes call (record.toScene.perform call).1 (record.after call) := by
  cases call with
  | getOrTryInit initializer =>
      cases found : record.cell.get? with
      | some value =>
          rw [Scene.perform_of_filled found, after_of_filled found]
          exact .held initializer value found
      | none =>
          have runs : initializer record.state = (_, _) := rfl
          rw [Scene.perform_of_unfilled found runs, after_of_unfilled found runs]
          exact .ran initializer _ _ found runs
  | get => exact .got
  | isPopulated => exact .asked
  | invalidate => exact .invalidated
  | elsewhere change => exact .changed change

/-- To keep a history changes nothing else. -/
theorem toScene_after
    (record : Record α ε σ)
    (call : Call α ε σ) :
    (record.after call).toScene = (record.toScene.perform call).2 := by
  cases call with
  | getOrTryInit initializer =>
      cases found : record.cell.get? with
      | some value => rw [Scene.perform_of_filled found, after_of_filled found]
      | none =>
          have runs : initializer record.state = (_, _) := rfl
          rw [Scene.perform_of_unfilled found runs, after_of_unfilled found runs]
  | _ => rfl

/-- Whether a cell is told by its history: it holds the first value since the last invalidation,
and there is no second one. -/
structure IsTold (record : Record α ε σ) : Prop where
  holds : record.cell.get? = firstValue? record.history
  once : SucceedsOnce record.history

section Becoming

variable
  {record next : Record α ε σ}
  {call : Call α ε σ}
  {answer : Answer α ε}

theorem IsTold.becomes
    (told : record.IsTold)
    (becomes : record.Becomes call answer next) :
    next.IsTold := by
  cases becomes with
  | held | got | asked => exact told
  | changed change => exact { holds := told.holds, once := told.once }
  | ran initializer outcome state unfilled runs =>
      have first : firstValue? record.history = none := told.holds.symm.trans unfilled
      refine { holds := ?_, once := told.once.concat (.inr first) }
      rw [firstValue?_concat_ran, first, Option.none_or]
      rfl
  | invalidated =>
      refine { holds := ?_, once := told.once.concat (.inl rfl) }
      rw [firstValue?_concat_invalidated]
      rfl

/-- A run is in the history if and only if the call finds the cell empty. It is that of the call's
own initializer. -/
theorem Becomes.history_eq_ran_iff
    {outcome : Except ε α}
    (becomes : record.Becomes call answer next) :
    next.history = record.history ++ [.ran outcome] ↔
      ∃ initializer, call = .getOrTryInit initializer ∧ record.cell.get? = none ∧
        (initializer record.state).1 = outcome := by
  cases becomes with
  | held initializer value filled => simp [filled]
  | ran initializer outcome state unfilled runs => simp [unfilled, runs]
  | got | asked | invalidated | changed => simp

/-- There is nothing else in the history but runs and invalidations. -/
theorem Becomes.history_cases
    (becomes : record.Becomes call answer next) :
    (∃ outcome, next.history = record.history ++ [.ran outcome]) ∨
      (call = .invalidate ∧ next.history = record.history ++ [.invalidated]) ∨
      (call ≠ .invalidate ∧ next.history = record.history) := by
  cases becomes with
  | ran initializer outcome state unfilled runs => exact .inl ⟨outcome, rfl⟩
  | invalidated => exact .inr (.inl ⟨rfl, rfl⟩)
  | held | got | asked | changed => exact .inr (.inr ⟨by simp, rfl⟩)

/-- The initializer that runs makes the next state of the one that it finds. -/
theorem Becomes.state_of_unfilled
    {initializer : σ → Except ε α × σ}
    (becomes : record.Becomes (.getOrTryInit initializer) answer next)
    (unfilled : record.cell.get? = none) :
    next.state = (initializer record.state).2 := by
  cases becomes with
  | held _ value filled => simp [unfilled] at filled
  | ran _ outcome state _ runs => rw [runs]

/-- Without a run of an initializer, the state changes elsewhere or not at all. -/
theorem Becomes.state_eq
    (becomes : record.Becomes call answer next)
    (rests : ∀ outcome, next.history ≠ record.history ++ [.ran outcome])
    (unchanged : ∀ change, call ≠ .elsewhere change) :
    next.state = record.state := by
  cases becomes with
  | held | got | asked | invalidated => rfl
  | ran initializer outcome state unfilled runs => exact absurd rfl (rests outcome)
  | changed change => exact absurd rfl (unchanged change)

/-- Without a run that succeeds, an empty cell stays empty. -/
theorem Becomes.get?_eq_none
    (becomes : record.Becomes call answer next)
    (unfilled : record.cell.get? = none)
    (fails : ∀ value, next.history ≠ record.history ++ [.ran (.ok value)]) :
    next.cell.get? = none := by
  cases becomes with
  | held | got | asked | changed => exact unfilled
  | ran initializer outcome state _ runs =>
      cases outcome with
      | ok value => exact absurd rfl (fails value)
      | error error => rfl
  | invalidated => rfl

/-- A caller is given what the cell holds then, or the error of the own initializer. -/
theorem Becomes.given_cases
    {initializer : σ → Except ε α × σ}
    (becomes : record.Becomes (.getOrTryInit initializer) answer next) :
    (∃ value, answer = .given (.ok value) ∧ next.cell.get? = some value ∧
      (record.cell.get? = some value ∨ next.history = record.history ++ [.ran (.ok value)])) ∨
    ∃ error, answer = .given (.error error) ∧ next.cell.get? = none ∧
      next.history = record.history ++ [.ran (.error error)] := by
  cases becomes with
  | held _ value filled => exact .inl ⟨value, rfl, filled, .inl filled⟩
  | ran _ outcome state unfilled runs =>
      cases outcome with
      | ok value => exact .inl ⟨value, rfl, rfl, .inr rfl⟩
      | error error => exact .inr ⟨error, rfl, rfl, rfl⟩

end Becoming

end Record

/-! ## Runs -/

/-- The scene in which the call at a position is carried out. -/
def sceneAt
    (calls : List (Call α ε σ))
    (start : σ)
    (position : Nat) : Scene α σ :=
  stateAt (fun scene call => (scene.perform call).2) ⟨empty, start⟩ calls position

/-- The cell after all calls. -/
def cellAfter
    (calls : List (Call α ε σ))
    (start : σ) : CacheCell α :=
  (sceneAt calls start calls.length).cell

/-- What is answered to the call at a position. -/
def answerAt
    (calls : List (Call α ε σ))
    (start : σ)
    (position : Nat) : Option (Answer α ε) :=
  calls[position]?.map fun call => ((sceneAt calls start position).perform call).1

/-- The record in which the call at a position is carried out. -/
def recordAt
    (calls : List (Call α ε σ))
    (start : σ)
    (position : Nat) : Record α ε σ :=
  stateAt Record.after ⟨⟨empty, start⟩, []⟩ calls position

/-- What has happened to the cell before the call at a position. -/
def historyAt
    (calls : List (Call α ε σ))
    (start : σ)
    (position : Nat) : List (Event α ε) :=
  (recordAt calls start position).history

/-- Whether an initializer runs at a position, with an outcome. -/
def RanAt
    (calls : List (Call α ε σ))
    (start : σ)
    (position : Nat)
    (outcome : Except ε α) : Prop :=
  historyAt calls start (position + 1) = historyAt calls start position ++ [.ran outcome]

section Positions

variable
  {calls : List (Call α ε σ)}
  {start : σ}
  {call : Call α ε σ}
  {position first last : Nat}

theorem recordAt_toScene :
    (recordAt calls start position).toScene = sceneAt calls start position :=
  (List.foldl_hom Record.toScene fun record call => (record.toScene_after call).symm).symm

theorem isTold_recordAt :
    (recordAt calls start position).IsTold := by
  refine stateAt_of_le (Nat.zero_le position) ?_ ?_
  · exact { holds := rfl, once := succeedsOnce_nil }
  · intro _ call _ _ _ told
    exact told.becomes (Record.becomes_after _ call)

theorem sceneAt_length :
    sceneAt calls start calls.length = Scene.performAll ⟨empty, start⟩ calls := by
  rw [sceneAt, stateAt, List.take_length, Scene.performAll]

/-- More calls are carried out in the scene that the calls before them lead to. -/
theorem cellAfter_append
    {more : List (Call α ε σ)} :
    cellAfter (calls ++ more) start =
      ((sceneAt calls start calls.length).performAll more).cell := by
  rw [cellAfter, sceneAt_length, sceneAt_length, Scene.performAll_append]

theorem answerAt_of_some
    (present : calls[position]? = some call) :
    answerAt calls start position = some ((sceneAt calls start position).perform call).1 := by
  rw [answerAt, present, Option.map_some]

theorem sceneAt_succ_of_some
    (present : calls[position]? = some call) :
    sceneAt calls start (position + 1) = ((sceneAt calls start position).perform call).2 :=
  stateAt_succ_of_some present

theorem recordAt_succ_of_some
    (present : calls[position]? = some call) :
    recordAt calls start (position + 1) = (recordAt calls start position).after call :=
  stateAt_succ_of_some present

/-- A position without a call is behind the end of the run. -/
theorem recordAt_succ_of_none
    (ended : calls[position]? = none) :
    recordAt calls start (position + 1) = recordAt calls start position :=
  stateAt_succ_of_none ended

/-- The answer to a call is that of the step from one record to the next. -/
theorem exists_becomes_recordAt
    (start : σ)
    (present : calls[position]? = some call) :
    ∃ answer, answerAt calls start position = some answer ∧
      (recordAt calls start position).Becomes call answer
        (recordAt calls start (position + 1)) := by
  refine ⟨_, answerAt_of_some present, ?_⟩
  rw [recordAt_succ_of_some present, ← recordAt_toScene]
  exact Record.becomes_after _ call

theorem ranAt_iff
    {outcome : Except ε α} :
    RanAt calls start position outcome ↔
      ∃ initializer, calls[position]? = some (.getOrTryInit initializer) ∧
        (sceneAt calls start position).cell.get? = none ∧
        (initializer (sceneAt calls start position).state).1 = outcome := by
  unfold RanAt historyAt
  rw [← recordAt_toScene]
  cases present : calls[position]? with
  | none => simp [recordAt_succ_of_none present]
  | some call =>
      obtain ⟨answer, -, becomes⟩ := exists_becomes_recordAt start present
      simpa using becomes.history_eq_ran_iff

theorem get?_sceneAt :
    (sceneAt calls start position).cell.get? = firstValue? (historyAt calls start position) := by
  rw [← recordAt_toScene]
  exact isTold_recordAt.holds

/-- An empty cell is empty until an initializer succeeds. -/
theorem get?_sceneAt_of_le
    (ordered : first ≤ last)
    (unfilled : (sceneAt calls start first).cell.get? = none)
    (fail : ∀ between value, first ≤ between → between < last →
      ¬RanAt calls start between (.ok value)) :
    (sceneAt calls start last).cell.get? = none := by
  rw [← recordAt_toScene] at unfilled ⊢
  refine stateAt_of_le (motive := fun record : Record α ε σ => record.cell.get? = none)
    ordered unfilled ?_
  intro position call firstLe beforeLast present unfilledHere
  refine (Record.becomes_after _ call).get?_eq_none unfilledHere fun value ran => ?_
  apply fail position value firstLe beforeLast
  unfold RanAt historyAt
  rw [recordAt_succ_of_some present]
  exact ran

end Positions

/-! ## Refinement -/

/-- What a run of calls on a cell, from when it is empty, has to do with the history of the cell. -/
structure RefinesHistory
    (calls : List (Call α ε σ))
    (start : σ) : Prop where
  /-- The run is the same when the history of the cell is kept. -/
  kept : ∀ position,
    (recordAt calls start position).toScene = sceneAt calls start position
  /-- The cell holds the value of the first initializer since the last invalidation that
  succeeded, if any. -/
  holds : ∀ position,
    (sceneAt calls start position).cell.get? = firstValue? (historyAt calls start position)
  /-- The initializers that run are those of the calls that find the cell empty. -/
  runs : ∀ position outcome,
    RanAt calls start position outcome ↔
      ∃ initializer, calls[position]? = some (.getOrTryInit initializer) ∧
        (sceneAt calls start position).cell.get? = none ∧
        (initializer (sceneAt calls start position).state).1 = outcome
  /-- An initializer that runs makes the next state. -/
  leads : ∀ position initializer, calls[position]? = some (.getOrTryInit initializer) →
    (sceneAt calls start position).cell.get? = none →
    (sceneAt calls start (position + 1)).state =
      (initializer (sceneAt calls start position).state).2
  /-- Where no initializer runs, the state changes elsewhere or not at all. -/
  rests : ∀ position, (∀ outcome, ¬RanAt calls start position outcome) →
    (∀ change, calls[position]? ≠ some (.elsewhere change)) →
    (sceneAt calls start (position + 1)).state = (sceneAt calls start position).state
  /-- The history begins empty, and has nothing in it but runs and invalidations. -/
  notes : historyAt calls start 0 = [] ∧ ∀ position,
    (∃ outcome, RanAt calls start position outcome) ∨
      (calls[position]? = some .invalidate ∧
        historyAt calls start (position + 1) = historyAt calls start position ++ [.invalidated]) ∨
      (calls[position]? ≠ some .invalidate ∧
        historyAt calls start (position + 1) = historyAt calls start position)
  /-- Between invalidations, at most one initializer succeeds. -/
  once : ∀ position, SucceedsOnce (historyAt calls start position)
  /-- Each caller is given the value that the cell holds after the call, which it held before or
  which the caller's own initializer gave, or is given the error of this initializer, and then the
  cell is empty after the call. -/
  gives : ∀ position initializer, calls[position]? = some (.getOrTryInit initializer) →
    (∃ value, answerAt calls start position = some (.given (.ok value)) ∧
      (sceneAt calls start (position + 1)).cell.get? = some value ∧
      ((sceneAt calls start position).cell.get? = some value ∨
        RanAt calls start position (.ok value))) ∨
    ∃ error, answerAt calls start position = some (.given (.error error)) ∧
      (sceneAt calls start (position + 1)).cell.get? = none ∧
      RanAt calls start position (.error error)
  /-- Who looks at the cell is shown what it holds. -/
  shows : ∀ position,
    (calls[position]? = some .get →
      answerAt calls start position =
        some (.found (firstValue? (historyAt calls start position)))) ∧
    (calls[position]? = some .isPopulated →
      answerAt calls start position =
        some (.truth (firstValue? (historyAt calls start position)).isSome))
  /-- An invalidation tells whether an initializer has succeeded since the one before. -/
  tells : ∀ position, calls[position]? = some .invalidate →
    ∃ dropped, answerAt calls start position = some (.truth dropped) ∧
      (dropped = true ↔
        ∃ value, .ran (.ok value) ∈ sinceInvalidation (historyAt calls start position))
  /-- Of two invalidations without a success between them, the second one has nothing to drop. -/
  again : ∀ first last, first < last →
    calls[first]? = some .invalidate →
    calls[last]? = some .invalidate →
    (∀ between value, first < between → between < last →
      ¬RanAt calls start between (.ok value)) →
    answerAt calls start last = some (.truth false)

theorem refinesHistory
    (calls : List (Call α ε σ))
    (start : σ) :
    RefinesHistory calls start where
  kept _ := recordAt_toScene
  holds _ := get?_sceneAt
  runs _ _ := ranAt_iff
  leads position initializer present unfilled := by
    obtain ⟨answer, -, becomes⟩ := exists_becomes_recordAt start present
    rw [← recordAt_toScene] at unfilled ⊢
    rw [← recordAt_toScene]
    exact becomes.state_of_unfilled unfilled
  rests position rests unchanged := by
    rw [← recordAt_toScene, ← recordAt_toScene]
    cases present : calls[position]? with
    | none => rw [recordAt_succ_of_none present]
    | some call =>
        obtain ⟨answer, -, becomes⟩ := exists_becomes_recordAt start present
        refine becomes.state_eq rests fun change same => ?_
        exact unchanged change (same ▸ present)
  notes := by
    refine ⟨rfl, fun position => ?_⟩
    unfold RanAt historyAt
    cases present : calls[position]? with
    | none => simp [recordAt_succ_of_none present]
    | some call =>
        obtain ⟨answer, -, becomes⟩ := exists_becomes_recordAt start present
        simpa using becomes.history_cases
  once _ := isTold_recordAt.once
  gives position initializer present := by
    obtain ⟨answer, answered, becomes⟩ := exists_becomes_recordAt start present
    rw [answered, ← recordAt_toScene, ← recordAt_toScene]
    simp only [Option.some_inj]
    exact becomes.given_cases
  shows position := by
    constructor <;> intro present
    · rw [answerAt_of_some present, Scene.perform_get, get?_sceneAt]
    · rw [answerAt_of_some present, Scene.perform_isPopulated, get?_sceneAt]
  tells position present := by
    refine ⟨_, ?_, isSome_firstValue?_iff⟩
    rw [answerAt_of_some present, Scene.perform_invalidate, get?_sceneAt]
  again first last ordered dropped droppedAgain fail := by
    have emptied : (sceneAt calls start (first + 1)).cell.get? = none := by
      rw [sceneAt_succ_of_some dropped, Scene.perform_invalidate]
      rfl
    have unfilled : (sceneAt calls start last).cell.get? = none :=
      get?_sceneAt_of_le ordered emptied fail
    rw [answerAt_of_some droppedAgain, Scene.perform_invalidate, unfilled]
    rfl

end CacheCell
end TrustPolicy
