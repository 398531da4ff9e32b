import TrustPolicy.PolicyError

/-!
# Events

What policies, notifiers, and the default slot report while they work. Each
event has a level, a message, and named fields.
-/

namespace TrustPolicy

/-- A reported step. -/
inductive Event
  | builtPolicy (cleartextPermitted hstsEnforced : Bool) (pins entryRefs : Nat)
  | sourceFailed (source : String) (error : PolicyError)
  | computedAnchors (anchors entryRefs : Nat)
  | createdManager
  | invalidatedAnchors
  | trustStoreChanged (sources policies : Nat)
  | installedDefault (system user : String)
  deriving DecidableEq

namespace Event

/-- How important an event is. -/
inductive Level
  | debug
  | info
  | warn
  deriving DecidableEq

/-- A level in a word. -/
def Level.word : Level → String
  | .debug => "DEBUG"
  | .info => "INFO"
  | .warn => "WARN"

/-- The level of an event. -/
def level : Event → Level
  | .sourceFailed .. => .warn
  | .trustStoreChanged .. => .info
  | .installedDefault .. => .info
  | _ => .debug

/-- The message of an event. -/
def message : Event → String
  | .builtPolicy .. => "built network security policy"
  | .sourceFailed .. => "certificate source failed"
  | .computedAnchors .. => "computed trust anchor set"
  | .createdManager => "created trust manager"
  | .invalidatedAnchors => "invalidated cached trust anchors"
  | .trustStoreChanged .. => "trust store changed"
  | .installedDefault .. => "installed default network security policy"

/-- The value of a field. -/
inductive Value
  | truth (value : Bool)
  | count (value : Nat)
  | text (value : String)
  deriving DecidableEq

/-- The fields of an event. -/
def fields : Event → List (String × Value)
  | .builtPolicy cleartextPermitted hstsEnforced pins entryRefs =>
      [("cleartext_traffic_permitted", .truth cleartextPermitted),
        ("hsts_enforced", .truth hstsEnforced), ("pins", .count pins),
        ("entry_refs", .count entryRefs)]
  | .sourceFailed source error => [("source", .text source), ("error", .text error.message)]
  | .computedAnchors anchors entryRefs =>
      [("anchors", .count anchors), ("entry_refs", .count entryRefs)]
  | .createdManager => []
  | .invalidatedAnchors => []
  | .trustStoreChanged sources policies =>
      [("sources", .count sources), ("policies", .count policies)]
  | .installedDefault system user => [("system", .text system), ("user", .text user)]

end Event
end TrustPolicy
