import Mathlib.Data.List.Induction
import TrustPolicy.AnchorSet

/-!
# Anchor sets

The positions of an anchor set are in step with its anchors: each fingerprint is
recorded at the place of its anchor, and no other one is recorded. A set that is
filled from a list therefore holds the anchors whose fingerprints do not occur
earlier in the list, and finds for each certificate the first anchor that was
offered for its fingerprint.
-/

namespace TrustPolicy

/-- The anchors of a list whose fingerprints do not occur earlier in it, in the
same order. -/
def Anchor.firstOccurrences (anchors : List Anchor) : List Anchor :=
  (anchors.zipIdx.filter fun entry =>
    (anchors.take entry.2).all fun earlier =>
      earlier.certificate.fingerprint != entry.1.certificate.fingerprint).map Prod.fst

/-- One more anchor at the end changes nothing if its fingerprint occurs before. -/
theorem Anchor.firstOccurrences_concat
    (anchors : List Anchor)
    (anchor : Anchor) :
    firstOccurrences (anchors ++ [anchor]) =
      if anchor.certificate.fingerprint ∈ anchors.map (·.certificate.fingerprint) then
        firstOccurrences anchors
      else firstOccurrences anchors ++ [anchor] := by
  have sameBefore :
      anchors.zipIdx.filter (fun entry => ((anchors ++ [anchor]).take entry.2).all fun earlier =>
        earlier.certificate.fingerprint != entry.1.certificate.fingerprint) =
      anchors.zipIdx.filter fun entry => (anchors.take entry.2).all fun earlier =>
        earlier.certificate.fingerprint != entry.1.certificate.fingerprint := by
    apply List.filter_congr
    intro entry present
    have inside : entry.2 ≤ anchors.length :=
      Nat.le_of_lt (by simpa using List.snd_lt_of_mem_zipIdx present)
    rw [List.take_append_of_le_length inside]
  rw [firstOccurrences, List.zipIdx_append, List.filter_append, List.map_append, sameBefore]
  by_cases repeated :
      anchor.certificate.fingerprint ∈ anchors.map (·.certificate.fingerprint)
  · obtain ⟨earlier, present, same⟩ := List.mem_map.1 repeated
    rw [if_pos repeated]
    simpa [firstOccurrences] using ⟨earlier, present, same⟩
  · have fresh : ∀ earlier ∈ anchors,
        earlier.certificate.fingerprint ≠ anchor.certificate.fingerprint :=
      fun earlier present same => repeated (List.mem_map.2 ⟨earlier, present, same⟩)
    rw [if_neg repeated]
    simp [firstOccurrences, List.filter_cons, if_pos fresh]

namespace AnchorSet

/-- Each fingerprint is recorded at the position of its anchor, and no other one
is recorded. -/
def IsIndexed (set : AnchorSet) : Prop :=
  ∀ fingerprint position, set.positions.lookup fingerprint = some position ↔
    ∃ anchor, set.anchors[position]? = some anchor ∧
      anchor.certificate.fingerprint = fingerprint

section Indexed

variable
  {set : AnchorSet}
  {anchor found : Anchor}
  {certificate : Certificate}

theorem isIndexed_empty : empty.IsIndexed := by
  intro fingerprint position
  simp [empty]

/-- A recorded anchor is one of the set with the fingerprint that was asked for. -/
theorem IsIndexed.find?_eq_some_iff
    (indexed : set.IsIndexed) :
    set.find? certificate = some found ↔
      found ∈ set.anchors ∧ found.certificate.fingerprint = certificate.fingerprint := by
  unfold find?
  constructor
  · intro answer
    cases recorded : set.positions.lookup certificate.fingerprint with
    | none =>
        rw [recorded] at answer
        exact absurd answer (by simp)
    | some position =>
        rw [recorded] at answer
        obtain ⟨anchor, placed, same⟩ := (indexed _ _).1 recorded
        obtain rfl : anchor = found := Option.some.inj (placed.symm.trans answer)
        exact ⟨List.mem_of_getElem? placed, same⟩
  · rintro ⟨present, same⟩
    obtain ⟨position, placed⟩ := List.mem_iff_getElem?.1 present
    rw [(indexed _ _).2 ⟨found, placed, same⟩]
    exact placed

/-- No anchor is recorded for a certificate if none has its fingerprint. -/
theorem IsIndexed.find?_eq_none_iff
    (indexed : set.IsIndexed) :
    set.find? certificate = none ↔
      ∀ earlier ∈ set.anchors,
        earlier.certificate.fingerprint ≠ certificate.fingerprint := by
  rw [Option.eq_none_iff_forall_ne_some]
  constructor
  · intro unrecorded earlier present same
    exact unrecorded earlier (indexed.find?_eq_some_iff.2 ⟨present, same⟩)
  · intro absent earlier recorded
    obtain ⟨present, same⟩ := indexed.find?_eq_some_iff.1 recorded
    exact absent earlier present same

/-- An anchor is new if none is recorded for its certificate. -/
theorem IsIndexed.isNew_iff_find?_eq_none
    (indexed : set.IsIndexed) :
    set.isNew anchor = true ↔ set.find? anchor.certificate = none := by
  rw [isNew, Option.isNone_iff_eq_none, find?]
  cases recorded : set.positions.lookup anchor.certificate.fingerprint with
  | none => simp
  | some position =>
      obtain ⟨earlier, placed, _⟩ := (indexed _ _).1 recorded
      simp [placed]

/-- The anchors after an insertion: the new one only if its fingerprint was not
recorded. -/
theorem mem_insert :
    found ∈ (set.insert anchor).anchors ↔
      found ∈ set.anchors ∨ set.isNew anchor = true ∧ found = anchor := by
  unfold AnchorSet.insert
  split <;> simp_all

/-- One more record at the end counts where no record before it does. -/
theorem lookup_concat
    (positions : List (List UInt8 × Nat))
    (recorded fingerprint : List UInt8)
    (last : Nat) :
    (positions ++ [(recorded, last)]).lookup fingerprint =
      (positions.lookup fingerprint).or (if fingerprint = recorded then some last else none) := by
  rw [List.lookup_append]
  by_cases same : fingerprint = recorded
  · rw [if_pos same, same, List.lookup_cons_self]
  · have unequal : (fingerprint == recorded) = false := beq_false_of_ne same
    rw [if_neg same, List.lookup_cons, unequal]
    rfl

/-- One more anchor at the end stands at the position that was free. -/
theorem getElem?_concat_eq_some_iff
    {anchors : List Anchor}
    {position : Nat} :
    (anchors ++ [anchor])[position]? = some found ↔
      anchors[position]? = some found ∨ position = anchors.length ∧ anchor = found := by
  rcases Nat.lt_trichotomy position anchors.length with inside | rfl | outside
  · simp [List.getElem?_append_left inside, Nat.ne_of_lt inside]
  · simp
  · have beyond : (anchors ++ [anchor]).length ≤ position := by
      rw [List.length_append, List.length_singleton]
      exact outside
    rw [List.getElem?_eq_none beyond, List.getElem?_eq_none (Nat.le_of_lt outside)]
    simp [Nat.ne_of_gt outside]

/-- A new anchor and the record of it keep the positions in step with the anchors. -/
theorem IsIndexed.insert
    (indexed : set.IsIndexed)
    (anchor : Anchor) :
    (set.insert anchor).IsIndexed := by
  unfold AnchorSet.insert
  split
  case isFalse => exact indexed
  case isTrue new =>
      have unrecorded : set.positions.lookup anchor.certificate.fingerprint = none := by
        simpa [isNew] using new
      intro fingerprint position
      simp only [lookup_concat, Option.or_eq_some_iff, getElem?_concat_eq_some_iff]
      constructor
      · rintro (recorded | ⟨_, last⟩)
        · obtain ⟨earlier, placed, same⟩ := (indexed _ _).1 recorded
          exact ⟨earlier, .inl placed, same⟩
        · obtain ⟨rfl, rfl⟩ : fingerprint = anchor.certificate.fingerprint ∧
              set.anchors.length = position := by simpa using last
          exact ⟨anchor, .inr ⟨rfl, rfl⟩, rfl⟩
      · rintro ⟨earlier, placed | ⟨rfl, rfl⟩, rfl⟩
        · exact .inl ((indexed _ _).2 ⟨earlier, placed, rfl⟩)
        · exact .inr ⟨unrecorded, if_pos rfl⟩

theorem IsIndexed.extend
    (indexed : set.IsIndexed)
    (anchors : List Anchor) :
    (set.extend anchors).IsIndexed := by
  induction anchors generalizing set with
  | nil => exact indexed
  | cons anchor anchors inductionHypothesis => exact inductionHypothesis (indexed.insert anchor)

theorem isIndexed_ofList
    (anchors : List Anchor) :
    (ofList anchors).IsIndexed :=
  isIndexed_empty.extend anchors

/-! ## Filling a set from a list -/

/-- An anchor that is inserted is found unless another one was recorded before. -/
theorem IsIndexed.find?_insert
    (indexed : set.IsIndexed) :
    (set.insert anchor).find? certificate =
      (set.find? certificate).or
        (if anchor.certificate.fingerprint = certificate.fingerprint then some anchor
          else none) := by
  cases before : set.find? certificate with
  | some earlier =>
      obtain ⟨present, same⟩ := indexed.find?_eq_some_iff.1 before
      exact (indexed.insert anchor).find?_eq_some_iff.2 ⟨mem_insert.2 (.inl present), same⟩
  | none =>
      have absent : ∀ earlier ∈ set.anchors,
          earlier.certificate.fingerprint ≠ certificate.fingerprint :=
        indexed.find?_eq_none_iff.1 before
      rw [Option.none_or]
      by_cases same : anchor.certificate.fingerprint = certificate.fingerprint
      · have new : set.isNew anchor = true := by
          rw [indexed.isNew_iff_find?_eq_none, indexed.find?_eq_none_iff, same]
          exact absent
        rw [if_pos same]
        exact (indexed.insert anchor).find?_eq_some_iff.2 ⟨mem_insert.2 (.inr ⟨new, rfl⟩), same⟩
      · rw [if_neg same, (indexed.insert anchor).find?_eq_none_iff]
        intro found present
        rcases mem_insert.1 present with old | ⟨_, rfl⟩
        · exact absent found old
        · exact same

/-- A set that is filled from a list finds what it found before, or else the first
anchor of the list with the fingerprint. -/
theorem IsIndexed.find?_extend
    (indexed : set.IsIndexed)
    (anchors : List Anchor) :
    (set.extend anchors).find? certificate =
      (set.find? certificate).or
        (anchors.find? fun anchor =>
          anchor.certificate.fingerprint = certificate.fingerprint) := by
  induction anchors generalizing set with
  | nil => simp
  | cons anchor anchors inductionHypothesis =>
      rw [extend_cons, inductionHypothesis (indexed.insert anchor), indexed.find?_insert,
        Option.or_assoc, List.find?_cons]
      congr 1
      by_cases same : anchor.certificate.fingerprint = certificate.fingerprint <;> simp [same]

theorem find?_ofList
    (anchors : List Anchor) :
    (ofList anchors).find? certificate =
      anchors.find? fun anchor =>
        anchor.certificate.fingerprint = certificate.fingerprint := by
  rw [ofList, isIndexed_empty.find?_extend]
  rfl

/-- A set that is filled from a list holds the first anchor of each fingerprint, in
the order of the list. -/
theorem anchors_ofList
    (anchors : List Anchor) :
    (ofList anchors).anchors = Anchor.firstOccurrences anchors := by
  induction anchors using List.reverseRecOn with
  | nil => rfl
  | append_singleton anchors anchor inductionHypothesis =>
      have last : ofList (anchors ++ [anchor]) = (ofList anchors).insert anchor :=
        extend_append empty anchors [anchor]
      have isNew_iff : (ofList anchors).isNew anchor = true ↔
          anchor.certificate.fingerprint ∉ anchors.map (·.certificate.fingerprint) := by
        rw [(isIndexed_ofList anchors).isNew_iff_find?_eq_none, find?_ofList, List.find?_eq_none]
        simp
      rw [last, AnchorSet.insert, Anchor.firstOccurrences_concat]
      by_cases repeated :
          anchor.certificate.fingerprint ∈ anchors.map (·.certificate.fingerprint)
      · rw [if_neg (by rwa [isNew_iff, not_not]), if_pos repeated, inductionHypothesis]
      · rw [if_pos (isNew_iff.2 repeated), if_neg repeated, inductionHypothesis]

end Indexed

end AnchorSet
end TrustPolicy
