import TrustPolicy.PinForm
import TrustPolicy.Session.Answer
import TrustPolicy.World.DefaultPolicy
import TrustPolicy.World.Managers
import TrustPolicy.World.Notifier

/-!
# Sessions

A session works on one world and gives names to the objects it makes. Each kind
of object has names of its own. A step looks its names up before it does
anything, so a step that uses an unbound name changes nothing.
-/

namespace TrustPolicy

/-- A world with names for its objects. The names of policies are the owners in
the world. -/
structure Session where
  world : World
  certificates : Bindings Certificate
  sources : Bindings SourceId
  builders : Bindings Builder
  sets : Bindings BuilderSet
  /-- The number of builder sets made so far. -/
  setCount : Nat
  ids : Bindings BuilderId
  factories : Bindings FactoryId
  managers : Bindings TrustManager
  /-- The trust managers that were bound to a policy without asking it. -/
  directManagers : Bindings TrustManager
  notifiers : Bindings Notifier
  snapshots : Bindings Snapshot
  cells : Bindings (CacheCell String)
  anchorSets : Bindings AnchorSet
  defaultSources : Bindings DefaultSources

namespace Session

/-- The session without objects and names. -/
def initial : Session where
  world := World.initial
  certificates := Bindings.empty
  sources := Bindings.empty
  builders := Bindings.empty
  sets := Bindings.empty
  setCount := 0
  ids := Bindings.empty
  factories := Bindings.empty
  managers := Bindings.empty
  directManagers := Bindings.empty
  notifiers := Bindings.empty
  snapshots := Bindings.empty
  cells := Bindings.empty
  anchorSets := Bindings.empty
  defaultSources := Bindings.empty

/-- What a name is bound to, or the answer that it is unbound. -/
def look
    (table : Bindings α)
    (name : String) : Except Answer α :=
  match table.find? name with
  | some value => .ok value
  | none => .error (.unbound name)

/-- What names are bound to, or the answer for the first unbound one. -/
def lookAll (table : Bindings α) : List String → Except Answer (List α)
  | [] => .ok []
  | name :: rest => do
      let value ← look table name
      let values ← lookAll table rest
      return value :: values

/-- What an optional name is bound to. -/
def look?
    (table : Bindings α) : Option String → Except Answer (Option α)
  | none => .ok none
  | some name => some <$> look table name

/-- The policy that a name owns. -/
def policy
    (session : Session)
    (name : String) : Except Answer StrongPolicy :=
  look session.world.owners name

/-- The result of an operation, or the answer that it was refused. -/
def accepted : Except PolicyError α → Except Answer α
  | .ok value => .ok value
  | .error error => .error (.refused error)

/-- The answer to a result. -/
def answerOf
    (render : α → Answer) : Except PolicyError α → Answer
  | .ok value => render value
  | .error error => .refused error

/-- The session with another world. -/
def withWorld
    (session : Session)
    (world : World) : Session :=
  { session with world := world }

/-- A reference as it is listed. -/
def listRef
    (session : Session)
    (entry : EntryRef) : RefListing :=
  ⟨session.world.label entry.source, entry.overridesPins⟩

end Session

/-- A reference that is given by the name of its source. -/
structure RefForm where
  source : String
  overridesPins : Bool

/-- An anchor that is given by the name of its certificate. -/
structure AnchorForm where
  certificate : String
  overridesPins : Bool

/-- A change to a builder, with pins and references as they are given. -/
inductive CallForm
  | setCleartext (permitted : Bool)
  | setHsts (enforced : Bool)
  | setPins (pins : PinSetForm)
  | setRefs (entries : List RefForm)
  | addRef (entry : RefForm)
  | addRefs (entries : List RefForm)

namespace Session

/-- The reference of a form. -/
def resolveRef
    (session : Session)
    (form : RefForm) : Except Answer EntryRef := do
  let source ← look session.sources form.source
  return ⟨source, form.overridesPins⟩

/-- The references of forms, or the answer for the first one that has none. -/
def resolveRefs (session : Session) : List RefForm → Except Answer (List EntryRef)
  | [] => .ok []
  | form :: rest => do
      let entry ← session.resolveRef form
      let entries ← session.resolveRefs rest
      return entry :: entries

/-- The anchor of a form. -/
def resolveAnchor
    (session : Session)
    (form : AnchorForm) : Except Answer Anchor := do
  let certificate ← look session.certificates form.certificate
  return ⟨certificate, form.overridesPins⟩

/-- The anchors of forms, or the answer for the first one that has none. -/
def resolveAnchors (session : Session) : List AnchorForm → Except Answer (List Anchor)
  | [] => .ok []
  | form :: rest => do
      let anchor ← session.resolveAnchor form
      let anchors ← session.resolveAnchors rest
      return anchor :: anchors

/-- The change of a form. -/
def resolveCall (session : Session) : CallForm → Except Answer Builder.Call
  | .setCleartext permitted => .ok (.setCleartext permitted)
  | .setHsts enforced => .ok (.setHsts enforced)
  | .setPins form =>
      match form.make with
      | .ok pins => .ok (.setPins pins)
      | .error error => .error (.refused error.toPolicyError)
  | .setRefs forms => Builder.Call.setRefs <$> session.resolveRefs forms
  | .addRef form => Builder.Call.addRef <$> session.resolveRef form
  | .addRefs forms => Builder.Call.addRefs <$> session.resolveRefs forms

/-- The changes of forms, or the answer for the first one that has none. -/
def resolveCalls (session : Session) : List CallForm → Except Answer (List Builder.Call)
  | [] => .ok []
  | form :: rest => do
      let call ← session.resolveCall form
      let calls ← session.resolveCalls rest
      return call :: calls

/-- A builder after changes that are given as forms. -/
def applyCalls
    (session : Session)
    (forms : List CallForm)
    (builder : Builder) : Except Answer Builder := do
  return builder.applyAll (← session.resolveCalls forms)

end Session
end TrustPolicy
