import TrustPolicy.World.Build

/-!
# The default policy

The default policy trusts the certificates of the platform and then those that
the user added, and lets neither bypass pins. A world has one slot for it, which
is filled once and never emptied.
-/

namespace TrustPolicy

/-- The sources that the default policy trusts. -/
structure DefaultSources where
  /-- The certificates of the platform. -/
  system : SourceId
  /-- The certificates that the user added. -/
  user : SourceId
  deriving DecidableEq

namespace DefaultSources

/-- The builder of the default policy. -/
def builder (sources : DefaultSources) : Builder :=
  (((Builder.blank.setCleartext Settings.fallback.cleartextPermitted).setHsts
    Settings.fallback.hstsEnforced).addRef ⟨sources.system, false⟩).addRef ⟨sources.user, false⟩

/-- The two sources by their labels. -/
def describe
    (sources : DefaultSources)
    (label : SourceId → String) : String :=
  Text.record "DefaultSources"
    [("system", Text.quote (label sources.system)), ("user", Text.quote (label sources.user))]

end DefaultSources

namespace World

/-- Build the default policy and put it into the slot, which must be empty. The slot
holds the reference that is built, and another one is handed out. -/
def installDefault
    (world : World)
    (sources : DefaultSources) : Except PolicyError StrongPolicy × World :=
  match world.defaultPolicy with
  | some _ => (.error .defaultPolicyAlreadyInstalled, world)
  | none =>
      let (policy, built) := world.build sources.builder none
      let installed := { built with defaultPolicy := some policy }.report
        (.installedDefault (world.label sources.system) (world.label sources.user))
      (.ok policy, installed.retain policy)

/-- Another strong reference to the default policy, if there is one. -/
def takeDefault (world : World) : Option StrongPolicy × World :=
  match world.defaultPolicy with
  | none => (none, world)
  | some policy => (some policy, world.retain policy)

end World
end TrustPolicy
