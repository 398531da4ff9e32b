import TrustPolicy.Settings

/-!
# Sets of builders

A set of builders holds builders with links from children to parents. A link is
an identifier; it is refused if following the links from the new parent leads
back to the child, so every walk along the links comes to an end.
-/

namespace TrustPolicy

/-- Numbered builders with links to their parents. -/
structure BuilderSet where
  /-- The number that tells the set from all others. -/
  number : Nat
  builders : List Builder
  /-- The link of each builder to its parent, by the same positions. -/
  parents : List (Option BuilderId)
  deriving DecidableEq

namespace BuilderSet

/-- The set of a number without builders. -/
def ofNumber (number : Nat) : BuilderSet := ⟨number, [], []⟩

/-- The number of builders. -/
def size (set : BuilderSet) : Nat :=
  set.builders.length

/-- Whether there are no builders. -/
def isEmpty (set : BuilderSet) : Bool :=
  set.builders.isEmpty

/-- Whether an identifier addresses a builder of this set. -/
def Owns
    (set : BuilderSet)
    (id : BuilderId) : Prop :=
  id.set = set.number ∧ id.index < set.size

instance
    (set : BuilderSet)
    (id : BuilderId) : Decidable (set.Owns id) :=
  inferInstanceAs (Decidable (_ ∧ _))

/-- The set with a builder added without a parent. -/
def insert
    (set : BuilderSet)
    (builder : Builder) : BuilderSet :=
  { set with
    builders := set.builders ++ [builder]
    parents := set.parents ++ [none] }

/-- The identifier that the next added builder will have. -/
def nextId (set : BuilderSet) : BuilderId :=
  ⟨set.number, set.size⟩

/-- The position of an identifier that the set owns. -/
def indexOf
    (set : BuilderSet)
    (id : BuilderId) : Except PolicyError Nat :=
  if set.Owns id then .ok id.index else .error (.unknownBuilder id)

theorem indexOf_of_owns
    {set : BuilderSet}
    {id : BuilderId}
    (owned : set.Owns id) :
    set.indexOf id = .ok id.index :=
  if_pos owned

theorem indexOf_of_not_owns
    {set : BuilderSet}
    {id : BuilderId}
    (foreign : ¬set.Owns id) :
    set.indexOf id = .error (.unknownBuilder id) :=
  if_neg foreign

/-- The builder of an identifier. -/
def get
    (set : BuilderSet)
    (id : BuilderId) : Except PolicyError Builder :=
  match set.indexOf id with
  | .error error => .error error
  | .ok index =>
      match set.builders[index]? with
      | none => .error (.unknownBuilder id)
      | some builder => .ok builder

theorem get_of_owns
    {set : BuilderSet}
    {id : BuilderId}
    (owned : set.Owns id) :
    set.get id = .ok (set.builders.get ⟨id.index, owned.2⟩) := by
  have inside : id.index < set.builders.length := owned.2
  simp [get, indexOf_of_owns owned, inside]

/-- The link at a position. -/
def parentAt
    (set : BuilderSet)
    (index : Nat) : Option BuilderId :=
  set.parents[index]?.join

/-- The parent of a builder. -/
def parent
    (set : BuilderSet)
    (id : BuilderId) : Except PolicyError (Option BuilderId) :=
  (set.indexOf id).map set.parentAt

theorem parent_of_owns
    {set : BuilderSet}
    {id : BuilderId}
    (owned : set.Owns id) :
    set.parent id = .ok (set.parentAt id.index) := by
  rw [parent, indexOf_of_owns owned]
  rfl

theorem parent_of_not_owns
    {set : BuilderSet}
    {id : BuilderId}
    (foreign : ¬set.Owns id) :
    set.parent id = .error (.unknownBuilder id) := by
  rw [parent, indexOf_of_not_owns foreign]
  rfl

/-- The set with another builder at a position. -/
def replace
    (set : BuilderSet)
    (index : Nat)
    (builder : Builder) : BuilderSet :=
  { set with builders := set.builders.set index builder }

/-- The set with another link at a position. -/
def relink
    (set : BuilderSet)
    (index : Nat)
    (parent : Option BuilderId) : BuilderSet :=
  { set with parents := set.parents.set index parent }

/-- Change a builder by a function that may be abandoned. The function works on
a copy and is called only if the set owns the identifier. -/
def update
    (set : BuilderSet)
    (id : BuilderId)
    (change : Builder → Except ε Builder) : Except PolicyError (Except ε Unit) × BuilderSet :=
  match set.indexOf id with
  | .error error => (.error error, set)
  | .ok index =>
      match set.builders[index]? with
      | none => (.error (.unknownBuilder id), set)
      | some found =>
          match change found with
          | .error cause => (.ok (.error cause), set)
          | .ok builder => (.ok (.ok ()), set.replace index builder)

/-! ## Searches along the links -/

/-- The outcome of one turn of a search for a builder. -/
inductive Turn
  /-- The search is over, and the builder was met or not. -/
  | stop (met : Bool)
  /-- The search goes on at the link of the builder that it was at. -/
  | goOn (current : Option BuilderId)
  deriving DecidableEq

/-- One turn of a search for a builder. -/
def turn
    (set : BuilderSet)
    (sought : BuilderId) : Option BuilderId → Turn
  | none => .stop false
  | some id => if id = sought then .stop true else .goOn (set.parentAt id.index)

/-- Whether a search meets a builder in at most so many turns. -/
def meets
    (set : BuilderSet)
    (sought : BuilderId) : Nat → Option BuilderId → Bool
  | 0, _ => false
  | bound + 1, current =>
      match set.turn sought current with
      | .stop met => met
      | .goOn next => set.meets sought bound next

/-- Whether a child may be linked to a parent, or to none. The search from the
parent visits no builder twice, so it needs no more turns than there are
builders and one to find the last link missing. -/
def checkParent
    (set : BuilderSet)
    (child : BuilderId) : Option BuilderId → Except PolicyError Unit
  | none => .ok ()
  | some id =>
      match set.indexOf id with
      | .error error => .error error
      | .ok _ =>
          if set.meets child (set.size + 1) (some id) then .error .parentCycle else .ok ()

/-- Link a child to a parent, or to none. The child is checked before the
parent, and a parent from which the links lead to the child is refused. -/
def setParent
    (set : BuilderSet)
    (child : BuilderId)
    (parent : Option BuilderId) : Except PolicyError Unit × BuilderSet :=
  match set.indexOf child with
  | .error error => (.error error, set)
  | .ok index =>
      match set.checkParent child parent with
      | .error error => (.error error, set)
      | .ok () =>
          if index < set.parents.length then (.ok (), set.relink index parent)
          else (.error (.unknownBuilder child), set)

/-! ## Chains -/

/-- A walk from a builder to the root above it. -/
structure Chain where
  set : BuilderSet
  /-- The builder that comes next, if there is one. -/
  next : Option BuilderId

namespace Chain

/-- The next builder of a walk, and the walk that goes on at its parent. Only
the position of an identifier counts here. -/
def advance (chain : Chain) : Option (Builder × Chain) :=
  match chain.next with
  | none => none
  | some id =>
      match chain.set.builders[id.index]? with
      | none => none
      | some builder => some (builder, { chain with next := chain.set.parentAt id.index })

/-- The next builders of a walk, at most so many. -/
def take : Nat → Chain → List Builder
  | 0, _ => []
  | bound + 1, chain =>
      match chain.advance with
      | none => []
      | some (builder, rest) => builder :: rest.take bound

/-- All builders of a walk. It visits none twice, so there are no more of them
than the set holds. -/
def builders (chain : Chain) : List Builder :=
  chain.take (chain.set.size + 1)

end Chain

/-- The walk from a builder that the set owns. -/
def chain
    (set : BuilderSet)
    (id : BuilderId) : Except PolicyError Chain :=
  (set.indexOf id).map fun _ => ⟨set, some id⟩

/-- A value that is resolved along the chain of an identifier. -/
def resolved
    (set : BuilderSet)
    (id : BuilderId)
    (value : List Builder → α) : Except PolicyError α :=
  (set.chain id).map fun chain => value chain.builders

/-- Whether a builder permits cleartext traffic, its ancestors included. -/
def cleartext
    (set : BuilderSet)
    (id : BuilderId) : Except PolicyError Bool :=
  set.resolved id Settings.cleartextOf

/-- Whether a builder enforces HSTS, its ancestors included. -/
def hsts
    (set : BuilderSet)
    (id : BuilderId) : Except PolicyError Bool :=
  set.resolved id Settings.hstsOf

/-- The pin set of a builder, its ancestors included. -/
def pins
    (set : BuilderSet)
    (id : BuilderId) : Except PolicyError PinSet :=
  set.resolved id Settings.pinsOf

/-- The references of a builder, its ancestors included. -/
def entryRefs
    (set : BuilderSet)
    (id : BuilderId) : Except PolicyError (List EntryRef) :=
  set.resolved id Settings.entryRefsOf

end BuilderSet
end TrustPolicy
