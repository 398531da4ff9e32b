import TrustPolicy.Session.Basic

/-!
# Steps on builders and builder sets

Builders are made, shown, and built, by themselves or in sets. An update that
fails or is broken off leaves the stored builder as it was.
-/

namespace TrustPolicy

/-- A builder to put into a set: one under a name, or a blank one with changes. -/
inductive BuilderForm
  | named (name : String)
  | changed (calls : List CallForm)

/-- A step on builders or builder sets. -/
inductive BuilderStep
  | make (name : String) (start : Option String) (calls : List CallForm)
  | view (builder : String)
  | build (builder policy : String) (factory : Option String)
  | makeSet (name : String)
  | setSize (set : String)
  | insert (set id : String) (builder : BuilderForm)
  | update (set id : String) (calls : List CallForm) (breaksOff : Bool)
  | get (set id : String)
  | effective (set id : String)
  | setParent (set child : String) (parent : Option String)
  | parentOf (set id : String)
  | buildIn (set id policy : String) (factory : Option String)

namespace Session

/-- The values that a builder sets, as they are listed. -/
def listLevel
    (session : Session)
    (builder : Builder) : LevelListing where
  cleartextPermitted := builder.cleartextPermitted
  hstsEnforced := builder.hstsEnforced
  pinSet := builder.pinSet
  entryRefs := builder.entryRefs.map (List.map session.listRef)
  hasEntryRefs := builder.hasEntryRefs

/-- The settings of a builder by itself, as they are listed. -/
def listSettings
    (session : Session)
    (settings : Settings) : EffectiveListing where
  cleartextPermitted := .ok settings.cleartextPermitted
  hstsEnforced := .ok settings.hstsEnforced
  pins := .ok settings.pins
  entryRefs := .ok (settings.entryRefs.map session.listRef)

/-- The builder of a form. -/
def resolveBuilder (session : Session) : BuilderForm → Except Answer Builder
  | .named name => look session.builders name
  | .changed calls => session.applyCalls calls Builder.blank

end Session

namespace BuilderStep

/-- Carry out a step on builders or builder sets. -/
def run
    (session : Session) : BuilderStep → Except Answer (Answer × Session)
  | .make name start calls => do
      let start ← Session.look? session.builders start
      let builder ← session.applyCalls calls (start.getD Builder.blank)
      return (.done, { session with builders := session.builders.assign name builder })
  | .view name => do
      let builder ← Session.look session.builders name
      return (.builder (session.listLevel builder) (session.listSettings builder.settings)
        (builder.describe session.world.label), session)
  | .build name policy factory => do
      let builder ← Session.look session.builders name
      let factory ← Session.look? session.factories factory
      let (built, world) := session.world.build builder factory
      return (.done, session.withWorld (world.own policy built))
  | .makeSet name =>
      .ok (.done,
        { session with
          sets := session.sets.assign name (BuilderSet.ofNumber session.setCount)
          setCount := session.setCount + 1 })
  | .setSize name => do
      let set ← Session.look session.sets name
      return (.size set.size set.isEmpty, session)
  | .insert name id form => do
      let set ← Session.look session.sets name
      let builder ← session.resolveBuilder form
      return (.text set.nextId.text,
        { session with
          sets := session.sets.assign name (set.insert builder)
          ids := session.ids.assign id set.nextId })
  | .update name id calls breaksOff => do
      let set ← Session.look session.sets name
      let id ← Session.look session.ids id
      let change := fun builder =>
        if breaksOff then .error .brokenOff else session.applyCalls calls builder
      let (result, changed) := set.update id change
      let next := { session with sets := session.sets.put name changed }
      match result with
      | .error error => return (.refused error, next)
      | .ok (.error answer) => return (answer, next)
      | .ok (.ok ()) => return (.done, next)
  | .get name id => do
      let set ← Session.look session.sets name
      let id ← Session.look session.ids id
      let builder ← Session.accepted (set.get id)
      return (.level (session.listLevel builder), session)
  | .effective name id => do
      let set ← Session.look session.sets name
      let id ← Session.look session.ids id
      return (.effective
        ⟨set.cleartext id, set.hsts id, set.pins id,
          (set.entryRefs id).map (List.map session.listRef)⟩, session)
  | .setParent name child parent => do
      let set ← Session.look session.sets name
      let child ← Session.look session.ids child
      let parent ← Session.look? session.ids parent
      let (result, changed) := set.setParent child parent
      let next := { session with sets := session.sets.put name changed }
      match result with
      | .error error => return (.refused error, next)
      | .ok () => return (.done, next)
  | .parentOf name id => do
      let set ← Session.look session.sets name
      let id ← Session.look session.ids id
      match ← Session.accepted (set.parent id) with
      | none => return (.nothing, session)
      | some parent => return (.text parent.text, session)
  | .buildIn name id policy factory => do
      let set ← Session.look session.sets name
      let id ← Session.look session.ids id
      let factory ← Session.look? session.factories factory
      match session.world.buildIn set id factory with
      | (.error error, world) => return (.refused error, session.withWorld world)
      | (.ok built, world) => return (.done, session.withWorld (world.own policy built))

end BuilderStep
end TrustPolicy
