/-!
# Bindings

A table of names, each bound to at most one value. Binding a name again
replaces its value.
-/

namespace TrustPolicy

/-- Names with the values they are bound to. -/
structure Bindings (α : Type) where
  entries : List (String × α)

namespace Bindings

/-- The table without names. -/
def empty : Bindings α := ⟨[]⟩

/-- The value that a name is bound to. -/
def find?
    (table : Bindings α)
    (name : String) : Option α :=
  table.entries.lookup name

/-- The table without a name. -/
def erase
    (table : Bindings α)
    (name : String) : Bindings α :=
  ⟨table.entries.filter fun entry => entry.1 != name⟩

/-- The table with a name bound to a value. -/
def assign
    (table : Bindings α)
    (name : String)
    (value : α) : Bindings α :=
  ⟨(name, value) :: (table.erase name).entries⟩

/-- Entries with another value for a name, at the place where it stands. -/
def putInto
    (name : String)
    (value : α) : List (String × α) → List (String × α)
  | [] => []
  | (other, bound) :: rest =>
      if other = name then (name, value) :: rest
      else (other, bound) :: putInto name value rest

/-- The table with another value for a name that is bound already. -/
def put
    (table : Bindings α)
    (name : String)
    (value : α) : Bindings α :=
  ⟨putInto name value table.entries⟩

/-- Whether some name is bound to a value. -/
def binds [DecidableEq α]
    (table : Bindings α)
    (value : α) : Bool :=
  table.entries.any fun entry => entry.2 = value

/-- The number of names that are bound to a value, if no name has two entries. -/
def countOf [DecidableEq α]
    (table : Bindings α)
    (value : α) : Nat :=
  table.entries.countP fun entry => entry.2 = value

/-- The first name, in the order of code points, that is bound to a value. -/
def firstName? [DecidableEq α]
    (table : Bindings α)
    (value : α) : Option String :=
  let names := (table.entries.filter fun entry => entry.2 = value).map Prod.fst
  names.foldl
    (fun least name =>
      match least with
      | none => some name
      | some other => some (if name < other then name else other))
    none

variable {table : Bindings α} {name other : String} {value : α}

@[simp] theorem find?_empty : (empty : Bindings α).find? name = none := rfl

theorem find?_erase_self : (table.erase name).find? name = none := by
  refine List.lookup_eq_none_iff.2 fun entry inTable => ?_
  have : entry.1 ≠ name := by simpa using (List.mem_filter.1 inTable).2
  simpa using this.symm

theorem find?_erase_of_ne
    (different : other ≠ name) :
    (table.erase name).find? other = table.find? other := by
  obtain ⟨entries⟩ := table
  simp only [find?, erase]
  induction entries with
  | nil => rfl
  | cons entry rest inductionHypothesis =>
      obtain ⟨key, bound⟩ := entry
      by_cases same : key = name
      · subst same
        have : (other == key) = false := by simpa using different
        simp [List.lookup_cons, this, inductionHypothesis]
      · simp [List.lookup_cons, same, inductionHypothesis]

@[simp] theorem find?_assign_self : (table.assign name value).find? name = some value := by
  simp [find?, assign]

theorem find?_assign_of_ne
    (different : other ≠ name) :
    (table.assign name value).find? other = table.find? other := by
  have unequal : (other == name) = false := by simpa using different
  have erased : (table.erase name).find? other = table.find? other := find?_erase_of_ne different
  simpa [find?, assign, List.lookup_cons, unequal] using erased

theorem find?_assign :
    (table.assign name value).find? other =
      if other = name then some value else table.find? other := by
  split
  case isTrue same => rw [same, find?_assign_self]
  case isFalse different => exact find?_assign_of_ne different

/-- A name that is assigned the value that it has stays as it is, and so do all others. -/
theorem find?_assign_of_find?
    (found : table.find? name = some value) :
    (table.assign name value).find? other = table.find? other := by
  by_cases same : other = name
  · rw [same, find?_assign_self, found]
  · exact find?_assign_of_ne same

@[simp] theorem assign_erase : (table.erase name).assign name value = table.assign name value := by
  simp [assign, erase, List.filter_filter]

/-- A name that is bound is put to another value, and all others stay as they are. -/
theorem find?_put
    {before : α}
    (found : table.find? name = some before) :
    (table.put name value).find? other = if other = name then some value else table.find? other := by
  obtain ⟨entries⟩ := table
  simp only [find?, put] at found ⊢
  induction entries with
  | nil => exact absurd found (by simp)
  | cons entry rest inductionHypothesis =>
      obtain ⟨key, bound⟩ := entry
      rw [putInto]
      by_cases same : key = name
      · subst same
        rw [if_pos rfl, List.lookup_cons, List.lookup_cons]
        by_cases here : other = key
        · simp [here]
        · simp [here, beq_eq_false_iff_ne.2 here]
      · have elsewhere : rest.lookup name = some before := by
          simpa [List.lookup_cons, beq_eq_false_iff_ne.2 (Ne.symm same)] using found
        rw [if_neg same, List.lookup_cons, List.lookup_cons, inductionHypothesis elsewhere]
        by_cases here : other = key
        · simp [here, same]
        · simp [beq_eq_false_iff_ne.2 here]

/-- A table in which a name is put to the value that it has stays as it is. -/
theorem put_of_find?
    (found : table.find? name = some value) :
    table.put name value = table := by
  obtain ⟨entries⟩ := table
  simp only [find?, put, mk.injEq] at found ⊢
  induction entries with
  | nil => rfl
  | cons entry rest inductionHypothesis =>
      obtain ⟨key, bound⟩ := entry
      rw [putInto]
      by_cases same : key = name
      · subst same
        obtain rfl : bound = value := by simpa using found
        exact if_pos rfl
      · have elsewhere : rest.lookup name = some value := by
          simpa [List.lookup_cons, beq_eq_false_iff_ne.2 (Ne.symm same)] using found
        rw [if_neg same, inductionHypothesis elsewhere]

theorem binds_of_binds_erase [DecidableEq α]
    (bound : (table.erase name).binds value = true) :
    table.binds value = true := by
  obtain ⟨entry, present, same⟩ := List.any_eq_true.1 bound
  exact List.any_eq_true.2 ⟨entry, (List.mem_filter.1 present).1, same⟩

/-- A name that is assigned binds no value but the one that it is assigned. -/
theorem binds_of_binds_assign [DecidableEq α]
    {assigned : α}
    (bound : (table.assign name assigned).binds value = true) :
    value = assigned ∨ table.binds value = true := by
  rcases Bool.or_eq_true_iff.1 bound with here | elsewhere
  · exact .inl (of_decide_eq_true here).symm
  · exact .inr (binds_of_binds_erase elsewhere)

theorem binds_of_find?_eq_some [DecidableEq α]
    (found : table.find? name = some value) :
    table.binds value = true := by
  obtain ⟨before, after, split, -⟩ := List.lookup_eq_some_iff.1 found
  refine List.any_eq_true.2 ⟨(name, value), ?_, by simp⟩
  rw [split]
  simp

/-! ## Distinct names -/

/-- Whether no name has two entries. -/
def HasDistinctNames (table : Bindings α) : Prop :=
  (table.entries.map Prod.fst).Nodup

theorem hasDistinctNames_empty : (empty : Bindings α).HasDistinctNames :=
  List.nodup_nil

theorem HasDistinctNames.erase
    (distinct : table.HasDistinctNames) :
    (table.erase name).HasDistinctNames :=
  distinct.sublist (List.filter_sublist.map Prod.fst)

theorem HasDistinctNames.assign
    (distinct : table.HasDistinctNames) :
    (table.assign name value).HasDistinctNames := by
  refine List.nodup_cons.2 ⟨?_, distinct.erase⟩
  intro present
  obtain ⟨entry, kept, same⟩ := List.mem_map.1 present
  have different : entry.1 ≠ name := by simpa using (List.mem_filter.1 kept).2
  exact different same

/-- If no name has two entries, each entry is what its name is bound to. -/
theorem HasDistinctNames.binds_iff [DecidableEq α]
    (distinct : table.HasDistinctNames) :
    table.binds value = true ↔ ∃ name, table.find? name = some value := by
  constructor
  · intro bound
    obtain ⟨⟨name, found⟩, present, same⟩ := List.any_eq_true.1 bound
    obtain rfl : found = value := of_decide_eq_true same
    obtain ⟨before, after, split⟩ := List.append_of_mem present
    refine ⟨name, List.lookup_eq_some_iff.2 ⟨before, after, split, ?_⟩⟩
    intro earlier inBefore
    rw [HasDistinctNames, split, List.map_append] at distinct
    have apart := (List.nodup_append.1 distinct).2.2 earlier.1 (List.mem_map_of_mem inBefore) name
    simpa using (apart (by simp)).symm
  · rintro ⟨name, found⟩
    exact binds_of_find?_eq_some found

theorem countOf_pos_iff [DecidableEq α] : 0 < table.countOf value ↔ table.binds value = true := by
  simp [countOf, binds, List.countP_pos_iff]

theorem countOf_assign [DecidableEq α]
    {assigned : α} :
    (table.assign name assigned).countOf value =
      (table.erase name).countOf value + [assigned].count value := by
  rw [countOf, assign, List.countP_cons, ← countOf, List.count_singleton]
  simp

/-- A name that is erased is one name less for the value that it was bound to. -/
theorem HasDistinctNames.countOf_erase [DecidableEq α]
    (distinct : table.HasDistinctNames) :
    table.countOf value =
      (table.erase name).countOf value + (table.find? name).toList.count value := by
  obtain ⟨entries⟩ := table
  simp only [HasDistinctNames, countOf, Bindings.erase, find?] at distinct ⊢
  induction entries with
  | nil => rfl
  | cons entry rest inductionHypothesis =>
      obtain ⟨key, bound⟩ := entry
      obtain ⟨absent, distinctRest⟩ := List.nodup_cons.1 distinct
      by_cases same : key = name
      · subst same
        have kept : rest.filter (fun entry => entry.1 != key) = rest := by
          refine List.filter_eq_self.2 fun entry present => ?_
          have different : entry.1 ≠ key :=
            fun same => absent (List.mem_map.2 ⟨entry, present, same⟩)
          simpa using different
        simp [List.countP_cons, List.count_singleton, kept]
      · have unequal : (name == key) = false := by simpa using Ne.symm same
        simp only [List.countP_cons, List.lookup_cons, unequal, same, bne_iff_ne, ne_eq,
          not_false_eq_true, List.filter_cons_of_pos, inductionHypothesis distinctRest]
        omega

/-- A value has a first name if some name is bound to it. -/
theorem isSome_firstName? [DecidableEq α] :
    (table.firstName? value).isSome = table.binds value := by
  have keepsSome (names : List String) (least : Option String) :
      (names.foldl
        (fun least name =>
          match least with
          | none => some name
          | some other => some (if name < other then name else other))
        least).isSome = (least.isSome || !names.isEmpty) := by
    induction names generalizing least with
    | nil => simp
    | cons name rest inductionHypothesis =>
        rw [List.foldl_cons, inductionHypothesis]
        cases least <;> simp
  rw [firstName?, keepsSome, binds]
  induction table.entries with
  | nil => rfl
  | cons entry rest inductionHypothesis =>
      by_cases same : entry.2 = value
      · simp [same]
      · simpa [same] using inductionHypothesis

end Bindings
end TrustPolicy
