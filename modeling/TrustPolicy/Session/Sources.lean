import TrustPolicy.Session.Basic

/-!
# Steps on certificates and sources

Certificates are decoded and compared. Sources are made, changed, queried, and
told to fail; references to them are compared and queried.
-/

namespace TrustPolicy

/-- A step on certificates or sources. -/
inductive SourceStep
  | decode (name : String) (der : List UInt8)
  | compare (first second : String)
  | countDistinct (anchors : List AnchorForm)
  | make (name label : String) (kind : Store.Kind) (certificates : List String)
  | view (source : String)
  | add (source certificate : String)
  | remove (source certificate : String)
  | replace (source : String) (certificates : List String)
  | setFailing (source : String) (failing : Bool)
  | setFailure (source : String) (failure : Option PolicyError)
  | stats (source : String)
  | watch (source policy : String)
  | queryRef (entry : RefForm)
  | compareRefs (first second : RefForm)

/-- The size and the description of a source that is a memory store. -/
def Source.memoryListing (source : Source) : Option MemoryListing :=
  match source.store with
  | .memory store =>
      some ⟨store.size, store.isEmpty, store.describe source.label⟩
  | _ => none

namespace Session

/-- The session with a source that has a changed store. -/
def withStore
    (session : Session)
    (source : SourceId)
    (store : Store) : Session :=
  session.withWorld (session.world.modifySource source fun current =>
    { current with store := store })

/-- The session with a new source under a name. -/
def makeSource
    (session : Session)
    (name : String)
    (source : Source) : Session :=
  { session with
    world := { session.world with sources := session.world.sources.add source }
    sources := session.sources.assign name session.world.sources.fresh }

end Session

namespace SourceStep

/-- Carry out a step on certificates or sources. -/
def run
    (session : Session) : SourceStep → Except Answer (Answer × Session)
  | .decode name der =>
      match Certificate.ofDer der with
      | .error error => .error (.refused error.toPolicyError)
      | .ok certificate =>
          .ok (.certificate certificate,
            { session with certificates := session.certificates.assign name certificate })
  | .compare first second => do
      let first ← Session.look session.certificates first
      let second ← Session.look session.certificates second
      return (.comparison (first = second) (hash first == hash second), session)
  | .countDistinct forms => do
      let anchors ← session.resolveAnchors forms
      return (.count anchors.eraseDups.length, session)
  | .make name label kind names => do
      let certificates ← Session.lookAll session.certificates names
      return (.done, session.makeSource name ⟨label, Store.ofKind kind certificates⟩)
  | .view name => do
      let id ← Session.look session.sources name
      let source := session.world.sources.get id
      let (result, world) := session.world.querySource id
      return (Session.answerOf (fun certificates =>
        .source source.label certificates source.memoryListing) result, session.withWorld world)
  | .add name certificate => do
      let id ← Session.look session.sources name
      let certificate ← Session.look session.certificates certificate
      match (session.world.sources.get id).store with
      | .memory store =>
          let (changed, wasAdded) := store.add certificate
          return (.truth wasAdded, session.withStore id (.memory changed))
      | _ => throw (.unsuitable name)
  | .remove name certificate => do
      let id ← Session.look session.sources name
      let certificate ← Session.look session.certificates certificate
      match (session.world.sources.get id).store with
      | .memory store =>
          let (changed, wasPresent) := store.remove certificate
          return (.truth wasPresent, session.withStore id (.memory changed))
      | _ => throw (.unsuitable name)
  | .replace name names => do
      let id ← Session.look session.sources name
      let certificates ← Session.lookAll session.certificates names
      let store := (session.world.sources.get id).store.replace certificates
      return (.done, session.withStore id store)
  | .setFailing name failing => do
      let id ← Session.look session.sources name
      match (session.world.sources.get id).store with
      | .counting store =>
          return (.done, session.withStore id (.counting { store with failing := failing }))
      | _ => throw (.unsuitable name)
  | .setFailure name failure => do
      let id ← Session.look session.sources name
      match (session.world.sources.get id).store with
      | .scripted store =>
          return (.done, session.withStore id (.scripted { store with failure := failure }))
      | _ => throw (.unsuitable name)
  | .stats name => do
      let id ← Session.look session.sources name
      match (session.world.sources.get id).store with
      | .counting store => return (.queryCounts store.queries store.announcements, session)
      | .scripted store => return (.seen store.seen, session)
      | .memory _ => throw (.unsuitable name)
  | .watch name policy => do
      let id ← Session.look session.sources name
      let policy ← session.policy policy
      match (session.world.sources.get id).store with
      | .scripted store =>
          let watched := store.watched ++ [policy]
          return (.done, session.withStore id (.scripted { store with watched := watched }))
      | _ => throw (.unsuitable name)
  | .queryRef form => do
      let entry ← session.resolveRef form
      let (result, world) := session.world.queryRef entry
      return (Session.answerOf (.refAnchors (entry.describe session.world.label)) result,
        session.withWorld world)
  | .compareRefs first second => do
      let first ← session.resolveRef first
      let second ← session.resolveRef second
      return (.truth (first = second), session)

end SourceStep
end TrustPolicy
