import TrustPolicy.Der.Element

/-!
# Self-delimiting readers

A reader is self-delimiting if what it finds depends only on the bytes that it
takes: the same bytes before any other rest give the same value and that rest.
The reader of elements is self-delimiting, as are the readers it is made of.
-/

namespace TrustPolicy
namespace Der

/-- A reader takes some bytes from the front, and finds the same in them
whatever comes after them. -/
def SelfDelimiting (reader : Reader α) : Prop :=
  ∀ input value rest, reader input = some (value, rest) →
    ∃ taken, input = taken ++ rest ∧
      ∀ suffix, reader (taken ++ suffix) = some (value, suffix)

namespace SelfDelimiting

theorem pure
    (value : α) : SelfDelimiting (Pure.pure value : Reader α) := by
  intro input found rest reads
  cases reads
  exact ⟨[], rfl, fun _ => rfl⟩

theorem failure : SelfDelimiting (failure : Reader α) := by
  intro input found rest reads
  cases reads

/-- One self-delimiting reader after another is self-delimiting. -/
theorem bind
    {reader : Reader α}
    {next : α → Reader β}
    (first : SelfDelimiting reader)
    (second : ∀ value, SelfDelimiting (next value)) :
    SelfDelimiting (reader >>= next) := by
  intro input found rest reads
  simp only [Bind.bind, StateT.bind, Option.bind_eq_some_iff] at reads ⊢
  obtain ⟨⟨value, middle⟩, readsFirst, readsSecond⟩ := reads
  obtain ⟨firstTaken, rfl, firstAgain⟩ := first _ _ _ readsFirst
  obtain ⟨secondTaken, rfl, secondAgain⟩ := second _ _ _ _ readsSecond
  refine ⟨firstTaken ++ secondTaken, by simp, fun suffix => ?_⟩
  refine ⟨(value, secondTaken ++ suffix), ?_, secondAgain suffix⟩
  rw [List.append_assoc]
  exact firstAgain (secondTaken ++ suffix)

theorem byte : SelfDelimiting byte := by
  intro input found rest reads
  cases input with
  | nil => cases reads
  | cons first others =>
      cases reads
      exact ⟨[found], rfl, fun _ => rfl⟩

theorem take
    (count : Nat) : SelfDelimiting (take count) := by
  intro input found rest reads
  simp only [Der.take] at reads
  split at reads
  case isFalse => cases reads
  case isTrue enough =>
      simp only [List.splitAt_eq, Option.some.injEq, Prod.mk.injEq] at reads
      obtain ⟨rfl, rfl⟩ := reads
      refine ⟨input.take count, (List.take_append_drop count input).symm, fun suffix => ?_⟩
      have length_taken : (input.take count).length = count := by
        rw [List.length_take, Nat.min_eq_left enough]
      have stillEnough : count ≤ (input.take count ++ suffix).length := by
        rw [List.length_append, length_taken]
        exact Nat.le_add_right count suffix.length
      simp only [Der.take, stillEnough, if_true, List.splitAt_eq]
      rw [List.take_left' length_taken, List.drop_left' length_taken]

theorem longTag
    (remaining high : Nat) : SelfDelimiting (longTag remaining high) := by
  induction remaining generalizing high with
  | zero => exact failure
  | succ remaining inductionHypothesis =>
      refine byte.bind fun digit => ?_
      dsimp only
      split
      · exact pure _
      · exact inductionHypothesis _

theorem identifier : SelfDelimiting identifier := by
  refine byte.bind fun first => ?_
  dsimp only
  split
  · exact (longTag 5 0).bind fun _ => pure _
  · exact (pure _).bind fun _ => pure _

theorem length : SelfDelimiting length := by
  refine byte.bind fun first => ?_
  repeat' split
  · exact pure _
  · exact pure _
  · exact failure
  · refine (take _).bind fun octets => ?_
    dsimp only
    split
    · exact pure _
    · exact failure

theorem header : SelfDelimiting header := by
  refine identifier.bind fun found => length.bind fun field => ?_
  cases field with
  | definite size => exact pure _
  | indefinite => exact failure

/-- An element of definite length is delimited by itself. -/
theorem element : SelfDelimiting element := by
  refine header.bind fun found => ?_
  exact (take _).bind fun _ => pure _

/-- An element whose content is read by a partial function is delimited by itself. -/
theorem tagged
    (tag : Nat)
    (inside : List UInt8 → Option α) : SelfDelimiting (tagged tag inside) := by
  refine element.bind fun found => ?_
  split
  · cases inner : inside found.content with
    | none =>
        intro input value rest reads
        simp [StateT.lift] at reads
    | some value => exact pure value
  · exact failure

end SelfDelimiting
end Der
end TrustPolicy
