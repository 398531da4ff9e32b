import TrustPolicy.CacheCell
import TrustPolicy.Settings

/-!
# Policies

A policy has settings that never change, and two cells that are filled on first
use: one for the anchors of its sources, and one for its trust manager. The
values in the cells have stamps, which tell apart values that look the same. A
policy knows itself by a weak reference, which it hands to its factory.
-/

namespace TrustPolicy

/-- A computed set of anchors. -/
structure Snapshot where
  /-- The identity of the snapshot. -/
  stamp : Nat
  anchors : AnchorSet
  deriving DecidableEq

/-- A trust manager, which accepts the anchors of the policy it is bound to. -/
structure TrustManager where
  /-- The identity of the trust manager. -/
  stamp : Nat
  policy : WeakPolicy
  deriving DecidableEq

/-- A maker of trust managers that counts and can be told to fail. -/
structure Factory where
  failing : Bool := false
  /-- How many trust managers were asked for. -/
  requests : Nat := 0
  /-- The policies for which one was asked, in the order of the requests. -/
  bound : List WeakPolicy := []
  deriving DecidableEq

instance : Inhabited Factory := ⟨{}⟩

/-- A policy. -/
structure Policy where
  settings : Settings
  /-- The factory that is asked for the trust manager, or none for the plain one. -/
  factory : Option FactoryId
  anchors : CacheCell Snapshot
  manager : CacheCell TrustManager
  /-- The policy itself. -/
  this : WeakPolicy
  deriving DecidableEq

namespace Policy

/-- A policy with empty cells. -/
def ofSettings
    (settings : Settings)
    (factory : Option FactoryId)
    (this : WeakPolicy) : Policy :=
  ⟨settings, factory, CacheCell.empty, CacheCell.empty, this⟩

instance : Inhabited Policy := ⟨ofSettings Settings.fallback none ⟨0⟩⟩

/-- Whether two policies were built with the same settings. -/
def sameConfiguration (first second : Policy) : Bool :=
  decide (first.settings = second.settings)

/-- The policy with its settings and the status of its cells. -/
def describe
    (policy : Policy)
    (label : SourceId → String) : String :=
  Text.record "ResolvedPolicy"
    [("cleartext_traffic_permitted", Text.truth policy.settings.cleartextPermitted),
      ("hsts_enforced", Text.truth policy.settings.hstsEnforced),
      ("pins", policy.settings.pins.describe),
      ("certificate_entry_refs", Text.listing (policy.settings.entryRefs.map fun entry =>
        entry.describe label)),
      ("anchors", policy.anchors.describe),
      ("trust_manager", policy.manager.describe)]

end Policy
end TrustPolicy
