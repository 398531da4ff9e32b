import TrustPolicy.Proofs.Locality

/-!
# Last writes

A value of a builder is the argument of the last call that sets it. References are the ones
that were set last, and after them all those that were added since. Calls for one value do not
meddle with another, so only the order within each value counts.
-/

namespace TrustPolicy
namespace Builder

namespace Call

/-- The value that a call changes. -/
def field : Call → Field
  | .setCleartext _ => .cleartext
  | .setHsts _ => .hsts
  | .setPins _ => .pins
  | .setRefs _ | .addRef _ | .addRefs _ => .entryRefs

/-- The call that sets a value. -/
def setter : (field : Field) → field.Value → Call
  | .cleartext => setCleartext
  | .hsts => setHsts
  | .pins => setPins
  | .entryRefs => setRefs

/-- The references that a call adds to those before. -/
def added : Call → List EntryRef
  | .addRef entry => [entry]
  | .addRefs entries => entries
  | .setCleartext _ | .setHsts _ | .setPins _ | .setRefs _ => []

/-- Whether a call sets the references in place of those before. -/
def ReplacesRefs (call : Call) : Prop :=
  ∃ entries, call = .setRefs entries

end Call

/-- Whether a value is the argument of the last call that sets it, or the one at the start if
no call does. -/
def LastWritten
    (field : Field)
    (start : Option field.Value)
    (calls : List Call)
    (result : Option field.Value) : Prop :=
  (∃ before value after, calls = before ++ .setter field value :: after ∧
    (∀ call ∈ after, call.field ≠ field) ∧ result = some value) ∨
  (∀ call ∈ calls, call.field ≠ field) ∧ result = start

/-- Whether references are those that were set last, or the ones at the start, and after them
all those that were added since, in order. -/
def Collected
    (start : Option (List EntryRef))
    (calls : List Call)
    (result : Option (List EntryRef)) : Prop :=
  (∃ before entries after, calls = before ++ .setRefs entries :: after ∧
    (∀ call ∈ after, ¬call.ReplacesRefs) ∧
    result = some (entries ++ after.flatMap Call.added)) ∨
  (∀ call ∈ calls, ¬call.ReplacesRefs) ∧
    ((∃ call ∈ calls, call.field = .entryRefs) ∧
        result = some (start.getD [] ++ calls.flatMap Call.added) ∨
      (∀ call ∈ calls, call.field ≠ .entryRefs) ∧ result = start)

section LastWrites

variable
  {builder first second : Builder}
  {field : Field}
  {value : field.Value}
  {call : Call}
  {calls others : List Call}
  {entries : List EntryRef}

/-- Builders that set the same values are the same. -/
theorem ext_setBy
    (same : ∀ field : Field, field.setBy first = field.setBy second) :
    first = second := by
  obtain ⟨cleartext, hsts, pins, refs⟩ := first
  obtain rfl : cleartext = second.cleartextPermitted := same .cleartext
  obtain rfl : hsts = second.hstsEnforced := same .hsts
  obtain rfl : pins = second.pinSet := same .pins
  obtain rfl : refs = second.entryRefs := same .entryRefs
  rfl

/-! ## Single calls -/

theorem setBy_apply_setter :
    field.setBy (builder.apply (.setter field value)) = some value := by
  cases field <;> rfl

theorem setBy_apply_of_ne
    (elsewhere : call.field ≠ field) :
    field.setBy (builder.apply call) = field.setBy builder := by
  cases call <;> cases field <;> first | rfl | exact absurd rfl elsewhere

/-- A call makes of a value what it makes of it in any other builder. -/
theorem setBy_apply_congr
    (same : field.setBy first = field.setBy second) :
    field.setBy (first.apply call) = field.setBy (second.apply call) := by
  by_cases here : call.field = field
  · subst here
    cases call with
    | setCleartext _ | setHsts _ | setPins _ | setRefs _ => rfl
    | addRef entry =>
        exact congrArg (fun refs : Option (List EntryRef) => some (refs.getD [] ++ [entry])) same
    | addRefs entries =>
        exact congrArg (fun refs : Option (List EntryRef) => some (refs.getD [] ++ entries)) same
  · rw [setBy_apply_of_ne here, setBy_apply_of_ne here, same]

/-- Of the calls for a value, those that are not for references set it. -/
theorem eq_setter_of_field
    (here : call.field = field)
    (plain : field ≠ .entryRefs) :
    ∃ value, call = .setter field value := by
  subst here
  cases call with
  | setCleartext value | setHsts value | setPins value => exact ⟨value, rfl⟩
  | setRefs _ | addRef _ | addRefs _ => exact absurd rfl plain

/-- What is no replacement goes on from the references that are there. -/
theorem getD_entryRefs_apply
    (keeps : ¬call.ReplacesRefs) :
    (builder.apply call).entryRefs.getD [] = builder.entryRefs.getD [] ++ call.added := by
  cases call with
  | setCleartext _ | setHsts _ | setPins _ => exact (List.append_nil _).symm
  | setRefs entries => exact absurd ⟨entries, rfl⟩ keeps
  | addRef _ | addRefs _ => rfl

theorem entryRefs_apply_eq_none_iff :
    (builder.apply call).entryRefs = none ↔
      builder.entryRefs = none ∧ call.field ≠ .entryRefs := by
  cases call <;> simp [apply, setCleartext, setHsts, setPins, setRefs, addRef, addRefs, Call.field]

/-! ## Sequences of calls -/

theorem setBy_applyAll_of_forall_ne
    (elsewhere : ∀ call ∈ calls, call.field ≠ field) :
    field.setBy (builder.applyAll calls) = field.setBy builder := by
  induction calls generalizing builder with
  | nil => rfl
  | cons call rest inductionHypothesis =>
      obtain ⟨here, below⟩ := List.forall_mem_cons.1 elsewhere
      calc field.setBy ((builder.apply call).applyAll rest)
          = field.setBy (builder.apply call) := inductionHypothesis below
        _ = field.setBy builder := setBy_apply_of_ne here

theorem setBy_applyAll_congr
    (same : field.setBy first = field.setBy second) :
    field.setBy (first.applyAll calls) = field.setBy (second.applyAll calls) := by
  induction calls generalizing first second with
  | nil => exact same
  | cons _ _ inductionHypothesis => exact inductionHypothesis (setBy_apply_congr same)

/-- What calls make of a value is up to the calls for it. -/
theorem setBy_applyAll_filter
    (calls : List Call) :
    field.setBy (builder.applyAll (calls.filter (·.field = field))) =
      field.setBy (builder.applyAll calls) := by
  induction calls generalizing builder with
  | nil => rfl
  | cons call rest inductionHypothesis =>
      by_cases here : call.field = field
      · rw [List.filter_cons, if_pos (decide_eq_true here)]
        exact inductionHypothesis
      · -- The call that is left out changes the builder, but not in this value.
        rw [List.filter_cons, if_neg (mt of_decide_eq_true here)]
        calc field.setBy (builder.applyAll (rest.filter (·.field = field)))
            = field.setBy (builder.applyAll rest) := inductionHypothesis
          _ = field.setBy ((builder.apply call).applyAll rest) :=
            setBy_applyAll_congr (setBy_apply_of_ne here).symm

/-- Calls that come in the same order for each value lead to the same builder. -/
theorem applyAll_congr_of_filter
    (sameOrder : ∀ field, calls.filter (·.field = field) = others.filter (·.field = field)) :
    builder.applyAll calls = builder.applyAll others := by
  apply ext_setBy
  intro field
  rw [← setBy_applyAll_filter calls, sameOrder field, setBy_applyAll_filter]

theorem getD_entryRefs_applyAll
    (keep : ∀ call ∈ calls, ¬call.ReplacesRefs) :
    (builder.applyAll calls).entryRefs.getD [] =
      builder.entryRefs.getD [] ++ calls.flatMap Call.added := by
  induction calls generalizing builder with
  | nil => exact (List.append_nil _).symm
  | cons call rest inductionHypothesis =>
      obtain ⟨here, below⟩ := List.forall_mem_cons.1 keep
      calc ((builder.apply call).applyAll rest).entryRefs.getD []
          = (builder.apply call).entryRefs.getD [] ++ rest.flatMap Call.added :=
            inductionHypothesis below
        _ = builder.entryRefs.getD [] ++ (call :: rest).flatMap Call.added := by
            rw [getD_entryRefs_apply here, List.flatMap_cons, List.append_assoc]

/-- References stay unset if and only if no call is for them, not even one that adds none. -/
theorem entryRefs_applyAll_eq_none_iff :
    (builder.applyAll calls).entryRefs = none ↔
      builder.entryRefs = none ∧ ∀ call ∈ calls, call.field ≠ .entryRefs := by
  induction calls generalizing builder with
  | nil => exact ⟨fun unset => ⟨unset, by simp⟩, And.left⟩
  | cons call rest inductionHypothesis =>
      calc ((builder.apply call).applyAll rest).entryRefs = none
          ↔ (builder.apply call).entryRefs = none ∧ ∀ later ∈ rest, later.field ≠ .entryRefs :=
            inductionHypothesis
        _ ↔ builder.entryRefs = none ∧ ∀ any ∈ call :: rest, any.field ≠ .entryRefs := by
            rw [entryRefs_apply_eq_none_iff, List.forall_mem_cons, and_assoc]

/-- References that are set after calls that replace none are those before the calls, if any,
and then those that were added. -/
theorem entryRefs_applyAll_of_ne_none
    (isSet : (builder.applyAll calls).entryRefs ≠ none)
    (keep : ∀ call ∈ calls, ¬call.ReplacesRefs) :
    (builder.applyAll calls).entryRefs =
      some (builder.entryRefs.getD [] ++ calls.flatMap Call.added) := by
  obtain ⟨refs, found⟩ := Option.ne_none_iff_exists'.1 isSet
  rw [← getD_entryRefs_applyAll keep, found, Option.getD_some]

/-! ## The last call -/

/-- Either some call is the last one of its kind, or there is none of the kind. -/
theorem exists_last_or_forall_not
    (kind : Call → Prop)
    (calls : List Call) :
    (∃ before call after, calls = before ++ call :: after ∧ kind call ∧
      ∀ later ∈ after, ¬kind later) ∨ ∀ call ∈ calls, ¬kind call := by
  induction calls with
  | nil => exact .inr (by simp)
  | cons call rest inductionHypothesis =>
      rcases inductionHypothesis with ⟨before, last, after, rfl, isKind, noLater⟩ | none
      · exact .inl ⟨call :: before, last, after, rfl, isKind, noLater⟩
      · by_cases isKind : kind call
        · exact .inl ⟨[], call, rest, rfl, isKind, none⟩
        · exact .inr (List.forall_mem_cons.2 ⟨isKind, none⟩)

/-- Calls leave a value as the last one for it does. -/
theorem lastWritten_applyAll
    (plain : field ≠ .entryRefs) :
    LastWritten field (field.setBy builder) calls (field.setBy (builder.applyAll calls)) := by
  rcases exists_last_or_forall_not (·.field = field) calls with
    ⟨before, last, after, rfl, here, noLater⟩ | elsewhere
  · obtain ⟨value, rfl⟩ := eq_setter_of_field here plain
    refine .inl ⟨before, value, after, rfl, noLater, ?_⟩
    rw [applyAll_append]
    calc field.setBy (((builder.applyAll before).apply (.setter field value)).applyAll after)
        = field.setBy ((builder.applyAll before).apply (.setter field value)) :=
          setBy_applyAll_of_forall_ne noLater
      _ = some value := setBy_apply_setter
  · exact .inr ⟨elsewhere, setBy_applyAll_of_forall_ne elsewhere⟩

/-- Calls leave the references that the last replacement and the additions since make up. -/
theorem collected_applyAll :
    Collected builder.entryRefs calls (builder.applyAll calls).entryRefs := by
  rcases exists_last_or_forall_not Call.ReplacesRefs calls with
    ⟨before, _, after, rfl, ⟨entries, rfl⟩, noLater⟩ | keep
  · refine .inl ⟨before, entries, after, rfl, noLater, ?_⟩
    rw [applyAll_append]
    let replaced : Builder := (builder.applyAll before).setRefs entries
    have isSet : (replaced.applyAll after).entryRefs ≠ none :=
      mt entryRefs_applyAll_eq_none_iff.1 fun unset => Option.some_ne_none entries unset.1
    exact entryRefs_applyAll_of_ne_none isSet noLater
  · refine .inr ⟨keep, ?_⟩
    by_cases touched : ∃ call ∈ calls, call.field = .entryRefs
    · refine .inl ⟨touched, entryRefs_applyAll_of_ne_none ?_ keep⟩
      obtain ⟨call, present, here⟩ := touched
      exact mt entryRefs_applyAll_eq_none_iff.1 fun unset => unset.2 call present here
    · have elsewhere : ∀ call ∈ calls, call.field ≠ .entryRefs := by
        intro call present here
        exact touched ⟨call, present, here⟩
      have unchanged : Field.entryRefs.setBy (builder.applyAll calls) =
          Field.entryRefs.setBy builder := setBy_applyAll_of_forall_ne elsewhere
      exact .inr ⟨elsewhere, unchanged⟩

/-! ## Lists of references -/

theorem addRefs_append
    (before after : List EntryRef) :
    builder.addRefs (before ++ after) = (builder.addRefs before).addRefs after := by
  simp [addRefs]

/-- To add the members of a list one by one is to add the list, unless it is empty. -/
theorem applyAll_map_addRef
    (nonempty : entries ≠ []) :
    builder.applyAll (entries.map .addRef) = builder.addRefs entries := by
  induction entries generalizing builder with
  | nil => exact absurd rfl nonempty
  | cons entry rest inductionHypothesis =>
      -- Without the last reference there is no call left that would set the references.
      by_cases last : rest = []
      · subst last
        rfl
      · calc (builder.addRef entry).applyAll (rest.map .addRef)
            = (builder.addRef entry).addRefs rest := inductionHypothesis last
          _ = builder.addRefs (entry :: rest) := (addRefs_append [entry] rest).symm

/-- This holds wherever in a sequence of calls the list is added. -/
theorem applyAll_addRefs_eq_map_addRef
    (nonempty : entries ≠ []) :
    builder.applyAll (calls ++ .addRefs entries :: others) =
      builder.applyAll (calls ++ entries.map .addRef ++ others) := by
  rw [applyAll_append, applyAll_append, applyAll_append, applyAll_map_addRef nonempty]
  rfl

end LastWrites

/-- What a builder makes of sequences of calls. -/
structure KeepsLastWrites (builder : Builder) : Prop where
  /-- Each value but the references is the argument of the last call that sets it, or the one at
  the start. -/
  written : ∀ calls field, field ≠ .entryRefs →
    LastWritten field (field.setBy builder) calls (field.setBy (builder.applyAll calls))
  /-- The references are those that were set last, or the ones at the start, and then all those
  that were added since. -/
  collected : ∀ calls, Collected builder.entryRefs calls (builder.applyAll calls).entryRefs
  /-- The references are unset if and only if they were at the start and no call is for them. -/
  unset : ∀ calls, (builder.applyAll calls).entryRefs = none ↔
    builder.entryRefs = none ∧ ∀ call ∈ calls, call.field ≠ .entryRefs
  /-- Sequences with the same calls for each value, in the same order, lead to one builder. -/
  independent : ∀ calls others,
    (∀ field, calls.filter (·.field = field) = others.filter (·.field = field)) →
      builder.applyAll calls = builder.applyAll others
  /-- A list of references that is not empty can be added one by one. -/
  singly : ∀ before entries after, entries ≠ [] →
    builder.applyAll (before ++ .addRefs entries :: after) =
      builder.applyAll (before ++ entries.map .addRef ++ after)

theorem keepsLastWrites (builder : Builder) :
    builder.KeepsLastWrites where
  written _ _ plain := lastWritten_applyAll plain
  collected _ := collected_applyAll
  unset _ := entryRefs_applyAll_eq_none_iff
  independent _ _ := applyAll_congr_of_filter
  singly _ _ _ := applyAll_addRefs_eq_map_addRef

end Builder

/-! ## Updates in parts -/

namespace BuilderSet

/-- The answer of an update and the set after it. -/
abbrev Updated (ε : Type) : Type :=
  Except PolicyError (Except ε Unit) × BuilderSet

/-- The update of a builder of a set by a sequence of calls. -/
def updateAll
    (set : BuilderSet)
    (id : BuilderId)
    (calls : List Builder.Call) : Updated ε :=
  set.update id fun builder => .ok (builder.applyAll calls)

section Updates

variable
  {set : BuilderSet}
  {id : BuilderId}
  {builder : Builder}
  {calls : List Builder.Call}

theorem updateAll_of_not_owns
    (foreign : ¬set.Owns id) :
    (set.updateAll id calls : Updated ε) = (.error (.unknownBuilder id), set) :=
  update_of_not_owns foreign

theorem updateAll_of_get
    (holds : set.get id = .ok builder) :
    (set.updateAll id calls : Updated ε) =
      (.ok (.ok ()), set.replace id.index (builder.applyAll calls)) :=
  update_of_get holds

theorem replace_replace
    {index : Nat}
    {other : Builder} :
    (set.replace index builder).replace index other = set.replace index other := by
  simp [replace]

end Updates

/-- What updates of the builders of a set by sequences of calls do. -/
structure UpdatesInParts
    (ε : Type)
    (set : BuilderSet) : Prop where
  /-- An update stores what the calls make of the builder, and leaves the others and all links
  as they are. -/
  stores : ∀ id builder calls, set.get id = .ok builder →
    let done : Updated ε := set.updateAll id calls
    done.1 = .ok (.ok ()) ∧ done.2.get id = .ok (builder.applyAll calls) ∧
      (∀ other, other ≠ id → done.2.get other = set.get other) ∧
      done.2.parents = set.parents
  /-- An update of a builder that the set does not own changes nothing. -/
  refuses : ∀ id calls, ¬set.Owns id →
    (set.updateAll id calls : Updated ε) = (.error (.unknownBuilder id), set)
  /-- An update by one sequence of calls after another comes to the same as one update by both:
  the first has the answer of the whole, and the second has the answer and the set. -/
  together : ∀ id first second,
    let part : Updated ε := set.updateAll id first
    let whole : Updated ε := set.updateAll id (first ++ second)
    part.1 = whole.1 ∧ part.2.updateAll id second = whole

theorem updatesInParts
    (ε : Type)
    (set : BuilderSet) :
    set.UpdatesInParts ε where
  stores id builder calls holds := by
    have owned : set.Owns id := owns_of_get holds
    rw [updateAll_of_get holds]
    exact ⟨rfl, get_replace_self owned, fun other => get_replace_of_ne owned, rfl⟩
  refuses _ _ := updateAll_of_not_owns
  together id first second := by
    intro part whole
    by_cases owned : set.Owns id
    · have holds := get_of_owns owned
      generalize set.builders.get ⟨id.index, owned.2⟩ = builder at holds
      have changed : part = (.ok (.ok ()), set.replace id.index (builder.applyAll first)) :=
        updateAll_of_get holds
      have changedAtOnce : whole =
          (.ok (.ok ()), set.replace id.index (builder.applyAll (first ++ second))) :=
        updateAll_of_get holds
      rw [changed, changedAtOnce, updateAll_of_get (get_replace_self owned), replace_replace,
        Builder.applyAll_append]
      exact ⟨rfl, rfl⟩
    · have refused : part = (.error (.unknownBuilder id), set) := updateAll_of_not_owns owned
      have refusedAtOnce : whole = (.error (.unknownBuilder id), set) :=
        updateAll_of_not_owns owned
      rw [refused, refusedAtOnce]
      exact ⟨rfl, updateAll_of_not_owns owned⟩

/-- Sequences of calls set what their last writes say, in one update of a set or in several. -/
theorem lastWrites :
    (∀ builder : Builder, builder.KeepsLastWrites) ∧
      ∀ (ε : Type) (set : BuilderSet), set.UpdatesInParts ε :=
  ⟨Builder.keepsLastWrites, updatesInParts⟩

/-- Calls for two values interleave, with references added before and after a replacement. -/
theorem lastWrites_of_interleaved_calls :
    let entry (index : Nat) : EntryRef := ⟨⟨index⟩, false⟩
    let first : List Builder.Call := [.addRefs [], .setHsts true, .setRefs [entry 0]]
    let second : List Builder.Call :=
      [.addRef (entry 1), .setHsts false, .addRefs [entry 0, entry 2]]
    let sorted : List Builder.Call :=
      [.setHsts true, .setHsts false, .addRefs [], .setRefs [entry 0], .addRef (entry 1)]
    let id : BuilderId := (ofNumber 7).nextId
    let set : BuilderSet := (ofNumber 7).insert Builder.blank
    let part : Updated PolicyError := set.updateAll id first
    let whole : Updated PolicyError := part.2.updateAll id second
    let result : Builder :=
      Builder.blank.applyAll (sorted ++ [.addRef (entry 0), .addRef (entry 2)])
    Builder.blank.applyAll (first ++ second) = result ∧
      result.hstsEnforced = some false ∧
      result.entryRefs = some [entry 0, entry 1, entry 0, entry 2] ∧
      whole.1 = .ok (.ok ()) ∧ whole.2.get id = .ok result := by
  intro entry first second sorted id set part whole result
  obtain ⟨keepsLast, inParts⟩ := lastWrites
  have sameOrder (field : Field) : (first ++ second).filter (·.field = field) =
      (sorted ++ [Builder.Call.addRefs [entry 0, entry 2]]).filter (·.field = field) := by
    cases field <;> rfl
  have same : Builder.blank.applyAll (first ++ second) = result :=
    calc Builder.blank.applyAll (first ++ second)
        = Builder.blank.applyAll (sorted ++ [.addRefs [entry 0, entry 2]]) :=
          (keepsLast Builder.blank).independent _ _ sameOrder
      _ = result := (keepsLast Builder.blank).singly sorted [entry 0, entry 2] [] (by simp)
  obtain ⟨-, together⟩ := (inParts PolicyError set).together id first second
  obtain ⟨answer, stored, -⟩ :=
    (inParts PolicyError set).stores id Builder.blank (first ++ second) rfl
  rw [← together, same] at stored
  exact ⟨same, rfl, rfl, (congrArg Prod.fst together).trans answer, stored⟩

end BuilderSet
end TrustPolicy
