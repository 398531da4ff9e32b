import TrustPolicy.Proofs.Confinement
import TrustPolicy.Proofs.Families

/-!
# Addresses of builders

In a run of calls on a family of sets, every insertion answers with an identifier of its
own. From then on the set that answered takes it for the inserted builder, with the
values that the successful updates of it have made of them, and all other sets reject it.
A set takes no identifier that was not answered by an insertion into it.
-/

namespace TrustPolicy
namespace Family

/-- The family in which the call at a position of a run is carried out. -/
abbrev familyAt
    (calls : List Call)
    (position : Nat) : Family :=
  stateAt perform empty calls position

/-- Whether the call at a position puts a builder into a set, which answers with an
identifier. -/
inductive InsertedAt
    (calls : List Call)
    (position : Nat) : BuilderId → Builder → Prop
  | intro
      {number : Nat}
      {set : BuilderSet}
      {builder : Builder}
      (present : calls[position]? = some (.on number (.insert builder)))
      (found : (familyAt calls position).find? number = some set) :
      InsertedAt calls position set.nextId builder

/-- The change that the call at a position makes to a builder, if it is an update of it
that succeeds. -/
def changeAt?
    (calls : List Call)
    (id : BuilderId)
    (position : Nat) : Option (Builder → Except Unit Builder) :=
  calls[position]?.bind ((familyAt calls position).changeOf? id)

/-- The changes that successful updates make to a builder from one position up to another
one, in order. -/
def changesBetween
    (calls : List Call)
    (id : BuilderId)
    (first last : Nat) : List (Builder → Except Unit Builder) :=
  (List.Ico first last).flatMap fun position => (changeAt? calls id position).toList

section Runs

variable
  {calls : List Call}
  {first last position : Nat}
  {id other : BuilderId}
  {builder instead level : Builder}
  {set : BuilderSet}

/-! ## Runs -/

theorem isNumbered_familyAt : (familyAt calls position).IsNumbered :=
  List.foldlRecOn (calls.take position) perform isNumbered_empty
    fun _ numbered _ _ => numbered.perform

theorem changedBy_append
    {changes more : List (Builder → Except Unit Builder)}
    {changed : Builder}
    (before : builder.changedBy changes = .ok level)
    (after : level.changedBy more = .ok changed) :
    builder.changedBy (changes ++ more) = .ok changed := by
  rw [Builder.changedBy, List.foldlM_append, ← Builder.changedBy, before]
  exact after

/-- A builder stays under its identifier, with what successful updates of it make of it. -/
theorem exists_get_of_le
    (ordered : first ≤ last)
    (found : (familyAt calls first).find? id.set = some set)
    (holds : set.get id = .ok builder) :
    ∃ later level, (familyAt calls last).find? id.set = some later ∧
      builder.changedBy (changesBetween calls id first last) = .ok level ∧
      later.get id = .ok level := by
  induction ordered with
  | refl => exact ⟨set, builder, found, by rw [changesBetween, List.Ico.self_empty]; rfl, holds⟩
  | @step position ordered inductionHypothesis =>
      obtain ⟨before, level, present, changes, stored⟩ := inductionHypothesis
      have splits : changesBetween calls id first (position + 1) =
          changesBetween calls id first position ++ (changeAt? calls id position).toList := by
        rw [changesBetween, List.Ico.succ_top ordered, List.flatMap_append,
          List.flatMap_singleton, ← changesBetween]
      rw [splits]
      cases called : calls[position]? with
      | none =>
          rw [familyAt, stateAt_succ_of_none called, changeAt?, called]
          exact ⟨before, level, present, changedBy_append changes rfl, stored⟩
      | some call =>
          rw [familyAt, stateAt_succ_of_some called, changeAt?, called]
          obtain ⟨next, changed, presentAfter, change, storedAfter⟩ :=
            isNumbered_familyAt.exists_get_perform call present stored
          exact ⟨next, changed, presentAfter, changedBy_append changes change, storedAfter⟩

/-- An insertion puts the builder under the identifier that it answers with. -/
theorem InsertedAt.exists_get_succ
    (inserted : InsertedAt calls position id builder) :
    ∃ set, (familyAt calls (position + 1)).find? id.set = some set ∧
      set.get id = .ok builder := by
  cases inserted with
  | @intro number set builder present found =>
      obtain ⟨sameNumber, -⟩ := isNumbered_familyAt number set found
      have answered : set.nextId.set = number := sameNumber
      refine ⟨set.insert builder, ?_, BuilderSet.get_insert_nextId⟩
      rw [familyAt, stateAt_succ_of_some present, answered, find?_on, if_pos rfl, found]
      rfl

/-- No insertion answers with an identifier that its set owns. -/
theorem InsertedAt.not_owns
    (inserted : InsertedAt calls position id builder)
    (found : (familyAt calls position).find? id.set = some set) :
    ¬set.Owns id := by
  cases inserted with
  | @intro number before builder present foundBefore =>
      obtain ⟨sameNumber, -⟩ := isNumbered_familyAt number before foundBefore
      rw [BuilderSet.nextId, sameNumber] at found
      obtain rfl : before = set := Option.some_inj.1 (foundBefore.symm.trans found)
      exact fun owned => Nat.lt_irrefl _ owned.2

/-- An insertion answers with another identifier than all earlier ones. -/
theorem InsertedAt.ne_of_lt
    (earlier : InsertedAt calls first id builder)
    (later : InsertedAt calls last other instead)
    (ordered : first < last) :
    id ≠ other := by
  rintro rfl
  obtain ⟨set, found, holds⟩ := earlier.exists_get_succ
  obtain ⟨set, level, found, -, holds⟩ := exists_get_of_le ordered found holds
  exact later.not_owns found (BuilderSet.owns_of_get holds)

/-- What a set owns was answered by an earlier insertion. -/
theorem exists_insertedAt
    (found : (familyAt calls last).find? id.set = some set)
    (owned : set.Owns id) :
    ∃ moment builder, moment < last ∧ InsertedAt calls moment id builder := by
  induction last generalizing set with
  | zero => exact absurd found (by simp [find?, empty])
  | succ position inductionHypothesis =>
      have extend {earlier : BuilderSet}
          (present : (familyAt calls position).find? id.set = some earlier)
          (ownedBefore : earlier.Owns id) :
          ∃ moment builder, moment < position + 1 ∧ InsertedAt calls moment id builder := by
        obtain ⟨moment, builder, before, inserted⟩ := inductionHypothesis present ownedBefore
        exact ⟨moment, builder, Nat.lt_succ_of_lt before, inserted⟩
      cases called : calls[position]? with
      | none =>
          rw [familyAt, stateAt_succ_of_none called] at found
          exact extend found owned
      | some call =>
          rw [familyAt, stateAt_succ_of_some called] at found
          obtain ⟨before, present, ownedBefore | ⟨builder, rfl, new⟩⟩ :=
            owns_perform_cases found owned
          · exact extend present ownedBefore
          · refine ⟨position, builder, Nat.lt_succ_self position, ?_⟩
            rw [new]
            exact .intro called present

/-! ## Longer runs -/

theorem familyAt_append
    {more : List Call}
    (inside : position ≤ calls.length) :
    familyAt (calls ++ more) position = familyAt calls position := by
  rw [familyAt, familyAt, stateAt, stateAt, List.take_append_of_le_length inside]

theorem performAll_concat
    {call : Call} :
    empty.performAll (calls ++ [call]) = (empty.performAll calls).perform call := by
  rw [performAll, List.foldl_append]
  rfl

theorem familyAt_length : familyAt calls calls.length = empty.performAll calls := by
  rw [familyAt, stateAt, List.take_length, performAll]

/-- What was inserted in a run was inserted in all longer ones. -/
theorem InsertedAt.append
    {more : List Call}
    (inserted : InsertedAt calls position id builder) :
    InsertedAt (calls ++ more) position id builder := by
  cases inserted with
  | intro present found =>
      have inside : position < calls.length := (List.getElem?_eq_some_iff.1 present).1
      refine .intro ((List.getElem?_append_left inside).trans present) ?_
      rw [familyAt_append (Nat.le_of_lt inside)]
      exact found

/-- An insertion at the end of a run. -/
theorem insertedAt_length
    {number : Nat}
    (found : (empty.performAll calls).find? number = some set) :
    InsertedAt (calls ++ [.on number (.insert builder)]) calls.length set.nextId builder := by
  refine .intro List.getElem?_concat_length ?_
  rw [familyAt_append (Nat.le_refl _), familyAt_length]
  exact found

end Runs

end Family

/-! ## Sessions -/

namespace Session

/-- The change of an update that is given as forms. -/
def changeOf
    (session : Session)
    (forms : List CallForm)
    (breaksOff : Bool)
    (builder : Builder) : Except Answer Builder :=
  if breaksOff then .error .brokenOff else session.applyCalls forms builder

/-- The call that a step makes on the family of all sets that the session has made. -/
def familyCall? (session : Session) : Step → Option Family.Call
  | .builder (.makeSet _) => some .make
  | .builder (.insert name _ form) => do
      let set ← (look session.sets name).toOption
      let builder ← (session.resolveBuilder form).toOption
      return .on set.number (.insert builder)
  | .builder (.update name id forms breaksOff) => do
      let set ← (look session.sets name).toOption
      let id ← (look session.ids id).toOption
      return .on set.number (.update id fun builder =>
        (session.changeOf forms breaksOff builder).mapError fun _ => ())
  | .builder (.setParent name child parent) => do
      let set ← (look session.sets name).toOption
      let child ← (look session.ids child).toOption
      let parent ← (look? session.ids parent).toOption
      return .on set.number (.setParent child parent)
  | _ => none

/-- The calls that steps make on the family of all sets that the session has made. -/
def familyCalls (session : Session) : List Step → List Family.Call
  | [] => []
  | step :: rest => (session.familyCall? step).toList ++ (session.step step).2.familyCalls rest

/-- Whether sets under different names have different numbers. -/
def SetsApart (sets : Bindings BuilderSet) : Prop :=
  ∀ name other set instead, sets.find? name = some set → sets.find? other = some instead →
    set.number = instead.number → name = other

/-- Whether a session has the sets and the identifiers that calls have led to. -/
structure Follows
    (session : Session)
    (calls : List Family.Call) : Prop where
  counted : session.setCount = (Family.empty.performAll calls).sets.length
  /-- A set that has a name is the one of its number. -/
  found : ∀ name set, session.sets.find? name = some set →
    (Family.empty.performAll calls).find? set.number = some set
  /-- No set has two names. -/
  apart : SetsApart session.sets
  /-- An identifier that has a name was answered by an insertion. -/
  issued : ∀ name id, session.ids.find? name = some id →
    ∃ moment builder, Family.InsertedAt calls moment id builder

/-- Whether a session has the same sets and identifiers as before. -/
structure KeepsSets (session next : Session) : Prop where
  sets : next.sets = session.sets
  setCount : next.setCount = session.setCount
  ids : next.ids = session.ids

section Following

variable
  {session next : Session}
  {calls : List Family.Call}
  {name : String}
  {set changed : BuilderSet}
  {sets instead : Bindings BuilderSet}
  {call : BuilderSet.Call}

theorem SetsApart.replace
    (apart : SetsApart sets)
    (replaced : ∀ other, instead.find? other =
      if other = name then some changed else sets.find? other)
    (unlike : ∀ other set, other ≠ name → sets.find? other = some set →
      set.number ≠ changed.number) :
    SetsApart instead := by
  intro first second earlier later foundFirst foundSecond sameNumber
  rw [replaced] at foundFirst foundSecond
  split at foundFirst
  case isTrue here =>
    obtain rfl := Option.some_inj.1 foundFirst
    split at foundSecond
    case isTrue alsoHere => exact here.trans alsoHere.symm
    case isFalse elsewhere => exact absurd sameNumber.symm (unlike second later elsewhere foundSecond)
  case isFalse elsewhere =>
    split at foundSecond
    case isTrue =>
      obtain rfl := Option.some_inj.1 foundSecond
      exact absurd sameNumber (unlike first earlier elsewhere foundFirst)
    case isFalse => exact apart first second earlier later foundFirst foundSecond sameNumber

theorem follows_initial : initial.Follows [] where
  counted := rfl
  found _ _ found := absurd found (by simp [initial])
  apart _ _ _ _ found := absurd found (by simp [initial])
  issued _ _ found := absurd found (by simp [initial])

namespace Follows

/-- A session follows the same calls as long as its sets and identifiers stay. -/
theorem congr
    (follows : session.Follows calls)
    (sameSets : next.sets = session.sets)
    (sameCount : next.setCount = session.setCount)
    (sameIds : next.ids = session.ids) :
    next.Follows calls where
  counted := sameCount.trans follows.counted
  found := sameSets ▸ follows.found
  apart := sameSets ▸ follows.apart
  issued := sameIds ▸ follows.issued

/-- A new set has a number that no set had. -/
theorem make
    (follows : session.Follows calls)
    (replaced : ∀ other, next.sets.find? other =
      if other = name then some (BuilderSet.ofNumber session.setCount)
      else session.sets.find? other)
    (counts : next.setCount = session.setCount + 1)
    (sameIds : next.ids = session.ids) :
    next.Follows (calls ++ [.make]) := by
  have old (other : String) (set : BuilderSet)
      (found : session.sets.find? other = some set) : set.number ≠ session.setCount := by
    have inside := (List.getElem?_eq_some_iff.1 (follows.found other set found)).1
    rw [follows.counted]
    exact Nat.ne_of_lt inside
  constructor
  · rw [counts, follows.counted, Family.performAll_concat]
    simp [Family.perform]
  · intro other set found
    rw [Family.performAll_concat]
    rw [replaced] at found
    split at found
    case isTrue =>
      obtain rfl := Option.some_inj.1 found
      rw [follows.counted]
      exact Family.find?_make_self
    case isFalse =>
      rw [Family.find?_make_of_ne (follows.counted ▸ old other set found)]
      exact follows.found other set found
  · exact follows.apart.replace replaced fun other set _ => old other set
  · intro other id named
    obtain ⟨moment, builder, inserted⟩ := follows.issued other id (sameIds ▸ named)
    exact ⟨moment, builder, inserted.append⟩

/-- A call on a named set is a call on the set of its number. -/
theorem on
    (follows : session.Follows calls)
    (bound : session.sets.find? name = some set)
    (replaced : ∀ other, next.sets.find? other =
      if other = name then some (set.apply call) else session.sets.find? other)
    (sameCount : next.setCount = session.setCount)
    (issued : ∀ other id, next.ids.find? other = some id →
      ∃ moment builder, Family.InsertedAt (calls ++ [.on set.number call]) moment id builder) :
    next.Follows (calls ++ [.on set.number call]) := by
  have present := follows.found name set bound
  have unlike (other : String) (others : BuilderSet)
      (elsewhere : other ≠ name)
      (found : session.sets.find? other = some others) : others.number ≠ set.number :=
    fun same => elsewhere (follows.apart other name others set found bound same)
  constructor
  · rw [sameCount, follows.counted, Family.performAll_concat]
    simp [Family.perform]
  · intro other others found
    rw [Family.performAll_concat, Family.find?_on]
    rw [replaced] at found
    split at found
    case isTrue =>
      obtain rfl := Option.some_inj.1 found
      rw [BuilderSet.number_apply, if_pos rfl, present]
      rfl
    case isFalse elsewhere =>
      rw [if_neg (Ne.symm (unlike other others elsewhere found))]
      exact follows.found other others found
  · refine follows.apart.replace replaced fun other others elsewhere found => ?_
    rw [BuilderSet.number_apply]
    exact unlike other others elsewhere found
  · exact issued

/-- An identifier that has a name is still one that was answered after more calls. -/
theorem issued_append
    {more : List Family.Call}
    (follows : session.Follows calls)
    (other : String)
    (id : BuilderId)
    (named : session.ids.find? other = some id) :
    ∃ moment builder, Family.InsertedAt (calls ++ more) moment id builder := by
  obtain ⟨moment, builder, inserted⟩ := follows.issued other id named
  exact ⟨moment, builder, inserted.append⟩

end Follows

/-- Whether an attempt leads to a session that follows the calls before and those that the
attempt makes. -/
def Continues
    (session : Session)
    (calls : List Family.Call)
    (call : Option Family.Call)
    (attempt : Except Answer (Answer × Session)) : Prop :=
  (session.settle attempt).2.Follows (calls ++ call.toList)

theorem continues_bind
    {attempt : Except Answer α}
    {call : α → Option Family.Call}
    {rest : α → Except Answer (Answer × Session)}
    (follows : session.Follows calls)
    (goesOn : ∀ value, attempt = .ok value → session.Continues calls (call value) (rest value)) :
    session.Continues calls (attempt.toOption >>= call) (attempt >>= rest) := by
  cases attempt with
  | ok value => exact goesOn value rfl
  | error answer =>
      have same : (session.settle (.error answer >>= rest)).2 = session := rfl
      rw [Continues, same]
      exact (List.append_nil calls).symm ▸ follows

/-- An attempt that leaves all sets and identifiers makes no call on them. -/
theorem continues_of_keepsSets
    {attempt : Except Answer (Answer × Session)}
    (follows : session.Follows calls)
    (keeps : session.LeadsTo (KeepsSets session) attempt) :
    session.Continues calls none attempt := by
  rw [Continues, Option.toList_none, List.append_nil]
  exact follows.congr keeps.sets keeps.setCount keeps.ids

end Following

end Session

section Steps

open Session

variable
  {session : Session}
  {calls : List Family.Call}

theorem BuilderStep.continues
    (follows : session.Follows calls)
    (step : BuilderStep) :
    session.Continues calls (session.familyCall? (.builder step)) (step.run session) := by
  have kept : KeepsSets session session := ⟨rfl, rfl, rfl⟩
  cases step with
  | makeSet name => exact follows.make (fun other => Bindings.find?_assign) rfl rfl
  | insert name id form =>
      refine continues_bind follows fun set found => continues_bind follows fun builder _ => ?_
      have bound := look_eq_ok_iff.1 found
      refine follows.on bound (fun other => Bindings.find?_assign) rfl ?_
      intro other answered named
      have assigned : (session.ids.assign id set.nextId).find? other = some answered := named
      rw [Bindings.find?_assign] at assigned
      split at assigned
      · obtain rfl := Option.some_inj.1 assigned
        exact ⟨_, builder, Family.insertedAt_length (follows.found name set bound)⟩
      · exact follows.issued_append other answered assigned
  | update name member forms breaksOff =>
      refine continues_bind follows fun set found => continues_bind follows fun id _ => ?_
      have bound := look_eq_ok_iff.1 found
      let change := session.changeOf forms breaksOff
      have changed : ({ session with sets := session.sets.put name (set.update id change).2 } :
          Session).Follows (calls ++ [.on set.number (.update id fun builder =>
            (change builder).mapError fun _ => ())]) := by
        refine follows.on bound (fun other => ?_) rfl follows.issued_append
        rw [BuilderSet.apply, BuilderSet.update_mapError_snd]
        exact Bindings.find?_put bound
      dsimp only
      split <;> exact changed
  | setParent name child parent =>
      refine continues_bind follows fun set found => continues_bind follows fun child _ =>
        continues_bind follows fun parent _ => ?_
      have bound := look_eq_ok_iff.1 found
      have linked : ({ session with sets := session.sets.put name (set.setParent child parent).2 } :
          Session).Follows (calls ++ [.on set.number (.setParent child parent)]) :=
        follows.on bound (fun other => Bindings.find?_put bound) rfl follows.issued_append
      dsimp only
      split <;> exact linked
  | view _ | setSize _ =>
      exact continues_of_keepsSets follows (leadsTo_bind kept fun _ _ => kept)
  | make _ _ _ | build _ _ _ | effective _ _ =>
      exact continues_of_keepsSets follows
        (leadsTo_bind kept fun _ _ => leadsTo_bind kept fun _ _ => ⟨rfl, rfl, rfl⟩)
  | get _ _ =>
      exact continues_of_keepsSets follows
        (leadsTo_bind kept fun _ _ => leadsTo_bind kept fun _ _ => leadsTo_bind kept fun _ _ => kept)
  | parentOf _ _ =>
      refine continues_of_keepsSets follows
        (leadsTo_bind kept fun _ _ => leadsTo_bind kept fun _ _ =>
          leadsTo_bind kept fun parent _ => ?_)
      cases parent <;> exact kept
  | buildIn _ _ _ _ =>
      refine continues_of_keepsSets follows
        (leadsTo_bind kept fun _ _ => leadsTo_bind kept fun _ _ =>
          leadsTo_bind kept fun _ _ => ?_)
      split <;> exact ⟨rfl, rfl, rfl⟩

end Steps

namespace Session

section Runs

variable
  {session : Session}
  {calls : List Family.Call}

/-- A step is followed by the call that it makes. -/
theorem Follows.step
    (follows : session.Follows calls)
    (step : Step) :
    (session.step step).2.Follows (calls ++ (session.familyCall? step).toList) := by
  rw [step_eq_settle]
  cases step with
  | builder step => exact step.continues follows
  | source step =>
      apply continues_of_keepsSets follows (step.confined.mono _)
      rintro _ ⟨_, _, _, rfl⟩
      exact ⟨rfl, rfl, rfl⟩
  | policy step =>
      apply continues_of_keepsSets follows (step.confined.mono _)
      rintro _ ⟨_, _, _, _, _, _, rfl⟩
      exact ⟨rfl, rfl, rfl⟩
  | value step =>
      apply continues_of_keepsSets follows (step.confined.mono _)
      rintro _ ⟨_, _, _, _, _, _, rfl⟩
      exact ⟨rfl, rfl, rfl⟩
  | events => exact continues_of_keepsSets follows ⟨rfl, rfl, rfl⟩

/-- A run is followed by the calls that its steps make. -/
theorem Follows.run
    (follows : session.Follows calls)
    (steps : List Step) :
    (session.run steps).2.Follows (calls ++ session.familyCalls steps) := by
  induction steps generalizing session calls with
  | nil =>
      rw [familyCalls, List.append_nil]
      exact follows
  | cons step rest inductionHypothesis =>
      rw [familyCalls, ← List.append_assoc]
      exact inductionHypothesis (follows.step step)

end Runs

end Session

/-! ## Addresses -/

namespace Family

/-- What a run of calls on sets does with identifiers of builders. -/
structure AddressesBuilders (calls : List Call) : Prop where
  /-- No two insertions, be it into one set or into two, answer with one identifier. -/
  distinct : ∀ first last id other builder instead,
    InsertedAt calls first id builder → InsertedAt calls last other instead →
    first ≠ last → id ≠ other
  /-- After an insertion the set that has answered accepts the identifier in all operations,
  for the inserted builder with what the successful updates of it, in order, have made of it. -/
  kept : ∀ first last id builder, InsertedAt calls first id builder → first < last →
    ∃ set level, (familyAt calls last).find? id.set = some set ∧
      builder.changedBy (changesBetween calls id (first + 1) last) = .ok level ∧
      set.Accepts id level
  /-- All other sets reject it in all operations, whatever its position is. -/
  foreign : ∀ position number set id, (familyAt calls position).find? number = some set →
    id.set ≠ number → set.Rejects id
  /-- An identifier that no insertion has answered with is rejected by all sets. -/
  unforged : ∀ position number set id, (familyAt calls position).find? number = some set →
    (∀ moment builder, moment < position → ¬InsertedAt calls moment id builder) →
    set.Rejects id
  /-- The sets of a session whose steps make these calls are those of the family, under the
  same numbers, and its identifiers are those that insertions have answered with. -/
  sessions : ∀ steps, Session.initial.familyCalls steps = calls →
    (Session.initial.run steps).2.Follows calls

/-- In every run, identifiers are addresses of builders that nobody can forge. -/
theorem addressesBuilders
    (calls : List Call) :
    AddressesBuilders calls where
  distinct first last id other builder instead earlier later different := by
    rcases Nat.lt_or_gt_of_ne different with before | after
    · exact earlier.ne_of_lt later before
    · exact (later.ne_of_lt earlier after).symm
  kept first last id builder inserted ordered := by
    obtain ⟨set, found, holds⟩ := inserted.exists_get_succ
    obtain ⟨later, level, present, changes, stored⟩ := exists_get_of_le ordered found holds
    obtain ⟨-, reachable⟩ := isNumbered_familyAt id.set later present
    exact ⟨later, level, present, changes, reachable.isForest.accepts stored⟩
  foreign position number set id found foreign := isNumbered_familyAt.rejects found foreign
  unforged position number set id found never := by
    obtain ⟨sameNumber, -⟩ := isNumbered_familyAt number set found
    apply BuilderSet.rejects_of_not_owns
    intro owned
    rw [← owned.1.trans sameNumber] at found
    obtain ⟨moment, builder, before, inserted⟩ := exists_insertedAt found owned
    exact never moment builder before inserted
  sessions steps same := same ▸ Session.follows_initial.run steps

/-- Two sets have a builder in the same position. The first one is updated twice, with an
update that breaks off in between, and the second one is asked for it. -/
theorem addressesBuilders_of_two_sets :
    let id : BuilderId := ⟨0, 0⟩
    let other : BuilderId := ⟨1, 0⟩
    let calls : List Call :=
      [.make, .on 0 (.insert Builder.blank), .make, .on 1 (.insert Builder.blank),
        .on 0 (.update id fun level => .ok (level.setHsts true)),
        .on 0 (.update id fun _ => .error ()),
        .on 1 (.update id fun level => .ok (level.setCleartext false)),
        .on 0 (.update id fun level => .ok (level.setHsts false))]
    InsertedAt calls 1 id Builder.blank ∧ InsertedAt calls 3 other Builder.blank ∧
      id ≠ other ∧
      ∃ set foreign, (familyAt calls 8).find? 0 = some set ∧
        (familyAt calls 8).find? 1 = some foreign ∧
        set.Accepts id { hstsEnforced := some false } ∧ foreign.Owns other ∧
        foreign.Rejects id := by
  intro id other calls
  have addresses := addressesBuilders calls
  have inserted : InsertedAt calls 1 id Builder.blank :=
    @InsertedAt.intro calls 1 0 (BuilderSet.ofNumber 0) _ rfl rfl
  have insertedOther : InsertedAt calls 3 other Builder.blank :=
    @InsertedAt.intro calls 3 1 (BuilderSet.ofNumber 1) _ rfl rfl
  obtain ⟨set, level, found, changes, accepts⟩ := addresses.kept 1 8 id _ inserted (by decide)
  obtain rfl : { hstsEnforced := some false } = level := Except.ok.inj changes
  refine ⟨inserted, insertedOther, ?_, set, _, found, rfl, accepts, by decide, ?_⟩
  · exact addresses.distinct 1 3 id other _ _ inserted insertedOther (by decide)
  · exact addresses.foreign 8 1 _ id rfl (by decide)

end Family
end TrustPolicy
