/-!
# Handles and arenas

Sources, trust-manager factories, and policies are shared: several holders see
the same changes. They live in arenas and are passed around as handles. A
handle is given out once and never reused, so it is the identity of its object.
-/

namespace TrustPolicy

/-- The kinds of shared objects. -/
inductive ObjectKind
  | source
  | factory
  | policy
  deriving DecidableEq

/-- The identity of a shared object of some kind. -/
structure Handle (kind : ObjectKind) where
  index : Nat
  deriving DecidableEq

/-- The identity of a certificate source. -/
abbrev SourceId := Handle .source

/-- The identity of a trust-manager factory. -/
abbrev FactoryId := Handle .factory

/-- The identity of a policy. -/
abbrev PolicyId := Handle .policy

/-- A reference to a policy that keeps it alive. A world counts them. -/
abbrev StrongPolicy := PolicyId

/-- A reference to a policy that does not keep it alive, and is not counted. It has
to be upgraded before the policy can be used. -/
abbrev WeakPolicy := PolicyId

/-- The shared objects of a kind, in the order in which they were made. -/
structure Arena (kind : ObjectKind) (α : Type) where
  entries : List α

namespace Arena

/-- The arena without objects. -/
def empty : Arena kind α := ⟨[]⟩

/-- Whether a handle was given out by this arena. -/
def Holds
    (arena : Arena kind α)
    (handle : Handle kind) : Prop :=
  handle.index < arena.entries.length

instance
    (arena : Arena kind α)
    (handle : Handle kind) : Decidable (arena.Holds handle) :=
  inferInstanceAs (Decidable (handle.index < arena.entries.length))

/-- The object of a handle; a handle of another arena stands for a default object. -/
def get [Inhabited α]
    (arena : Arena kind α)
    (handle : Handle kind) : α :=
  arena.entries.getD handle.index default

/-- The handle that the next new object will have. -/
def fresh (arena : Arena kind α) : Handle kind :=
  ⟨arena.entries.length⟩

/-- The arena with one more object, whose handle is the fresh one. -/
def add
    (arena : Arena kind α)
    (value : α) : Arena kind α :=
  ⟨arena.entries ++ [value]⟩

/-- The arena with a changed object. -/
def modify
    (arena : Arena kind α)
    (handle : Handle kind)
    (change : α → α) : Arena kind α :=
  ⟨arena.entries.modify handle.index change⟩

variable {arena : Arena kind α} {handle other : Handle kind}

theorem holds_iff_of_fresh_eq
    {others : Arena kind β}
    (same : others.fresh = arena.fresh) :
    others.Holds handle ↔ arena.Holds handle := by
  have length : others.entries.length = arena.entries.length := congrArg Handle.index same
  rw [Holds, Holds, length]

@[simp] theorem fresh_modify
    {change : α → α} :
    (arena.modify other change).fresh = arena.fresh := by
  simp [fresh, modify]

theorem fresh_add_eq_fresh_add
    {others : Arena kind β}
    {value : α}
    {instead : β}
    (same : others.fresh = arena.fresh) :
    (others.add instead).fresh = (arena.add value).fresh := by
  simpa [fresh, add] using same

@[simp] theorem holds_modify
    {change : α → α} :
    (arena.modify other change).Holds handle ↔ arena.Holds handle := by
  simp [Holds, modify]

theorem not_holds_fresh : ¬arena.Holds arena.fresh :=
  Nat.lt_irrefl _

theorem holds_add
    {value : α} :
    (arena.add value).Holds handle ↔ arena.Holds handle ∨ handle = arena.fresh := by
  obtain ⟨index⟩ := handle
  simp only [Holds, add, fresh, List.length_append, List.length_singleton, Handle.mk.injEq]
  omega

theorem get_of_not_holds [Inhabited α]
    (unheld : ¬arena.Holds handle) :
    arena.get handle = default := by
  simp only [Holds] at unheld
  simp [get, List.getElem?_eq_none (Nat.le_of_not_lt unheld)]

theorem get_modify_self [Inhabited α]
    {change : α → α}
    (held : arena.Holds handle) :
    (arena.modify handle change).get handle = change (arena.get handle) := by
  simp only [Holds] at held
  simp [get, modify, held]

theorem get_modify_of_ne [Inhabited α]
    {change : α → α}
    (different : handle ≠ other) :
    (arena.modify other change).get handle = arena.get handle := by
  obtain ⟨index⟩ := handle
  obtain ⟨otherIndex⟩ := other
  have different : otherIndex ≠ index := fun same => different (same ▸ rfl)
  simp [get, modify, different]

theorem get_modify_cases [Inhabited α]
    (arena : Arena kind α)
    (handle other : Handle kind)
    (change : α → α) :
    (arena.modify other change).get handle = arena.get handle ∨
      (arena.modify other change).get handle = change (arena.get handle) := by
  by_cases same : handle = other
  · subst same
    by_cases held : arena.Holds handle
    · exact .inr (get_modify_self held)
    · simp only [Holds] at held
      simp [get, modify, List.getElem?_eq_none (Nat.le_of_not_lt held)]
  · exact .inl (get_modify_of_ne same)

/-- A change that does nothing to the default object changes the object of its
handle, whoever gave the handle out, and no other. -/
theorem get_modify [Inhabited α]
    {change : α → α}
    (keepsDefault : change default = default) :
    (arena.modify other change).get handle =
      if handle = other then change (arena.get handle) else arena.get handle := by
  split
  case isTrue same =>
    subst same
    by_cases held : arena.Holds handle
    · exact get_modify_self held
    · rw [get_of_not_holds (mt holds_modify.1 held), get_of_not_holds held, keepsDefault]
  case isFalse different => exact get_modify_of_ne different

/-- Changes that do the same to the object of a handle are the same. -/
theorem modify_congr [Inhabited α]
    {change instead : α → α}
    (same : change (arena.get handle) = instead (arena.get handle)) :
    arena.modify handle change = arena.modify handle instead := by
  obtain ⟨entries⟩ := arena
  simp only [modify, mk.injEq]
  apply List.ext_getElem?
  intro index
  rw [List.getElem?_modify, List.getElem?_modify]
  by_cases here : handle.index = index
  · subst here
    cases found : entries[handle.index]? with
    | none => rfl
    | some value => simpa [get, found] using same
  · simp [here]

theorem modify_modify
    {first second : α → α} :
    (arena.modify handle first).modify handle second = arena.modify handle (second ∘ first) := by
  simp [modify, List.modify_modify_eq]

/-- Changes of different objects may be made in any order. -/
theorem modify_comm
    {first second : α → α}
    (different : handle ≠ other) :
    (arena.modify handle first).modify other second =
      (arena.modify other second).modify handle first := by
  have unlike : handle.index ≠ other.index := fun same => different (congrArg Handle.mk same)
  rw [modify, modify, modify, modify, List.modify_modify_ne _ _ _ unlike]

/-- A change that does nothing to the object of a handle does nothing at all. -/
theorem modify_eq_self [Inhabited α]
    {change : α → α}
    (unchanged : change (arena.get handle) = arena.get handle) :
    arena.modify handle change = arena := by
  have same : change (arena.get handle) = id (arena.get handle) := unchanged
  rw [modify_congr same, modify, List.modify_id]

theorem get_add_fresh [Inhabited α]
    {value : α} :
    (arena.add value).get arena.fresh = value := by
  simp [get, add, fresh]

theorem get_add_of_holds [Inhabited α]
    {value : α}
    (held : arena.Holds handle) :
    (arena.add value).get handle = arena.get handle := by
  simp only [Holds] at held
  simp [get, add, List.getElem?_append_left held]

/-- A new object has the fresh handle, and all other handles stand for what they did. -/
theorem get_add [Inhabited α]
    {value : α} :
    (arena.add value).get handle =
      if handle = arena.fresh then value else arena.get handle := by
  split
  case isTrue fresh => rw [fresh, get_add_fresh]
  case isFalse old =>
      by_cases held : arena.Holds handle
      · exact get_add_of_holds held
      · have unheld : ¬(arena.add value).Holds handle := by
          rw [holds_add, not_or]
          exact ⟨held, old⟩
        rw [get_of_not_holds unheld, get_of_not_holds held]

end Arena
end TrustPolicy
