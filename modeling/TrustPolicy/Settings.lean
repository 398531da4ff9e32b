import TrustPolicy.Builder

/-!
# Settings

The settings of a policy are the values that a chain of builders resolves to.
The chain starts at the builder that is resolved and goes on to its ancestors.
Each value is the one of the first builder that sets it, whichever builders set
the other values, and a fixed default if no builder does.
-/

namespace TrustPolicy

/-- The four values that a policy is built with. -/
structure Settings where
  cleartextPermitted : Bool
  hstsEnforced : Bool
  pins : PinSet
  entryRefs : List EntryRef
  deriving DecidableEq

namespace Settings

/-- The settings where nothing is set: cleartext traffic is permitted, HSTS is
not enforced, and there are no pins and no references. -/
def fallback : Settings := ⟨true, false, PinSet.empty, []⟩

/-- The value of the first builder in a chain that sets it. -/
def resolve
    (value : Builder → Option α)
    (otherwise : α)
    (chain : List Builder) : α :=
  (chain.findSome? value).getD otherwise

/-- Whether a chain permits cleartext traffic. -/
def cleartextOf (chain : List Builder) : Bool :=
  resolve Builder.cleartextPermitted fallback.cleartextPermitted chain

/-- Whether a chain enforces HSTS. -/
def hstsOf (chain : List Builder) : Bool :=
  resolve Builder.hstsEnforced fallback.hstsEnforced chain

/-- The pin set of a chain. -/
def pinsOf (chain : List Builder) : PinSet :=
  resolve Builder.pinSet fallback.pins chain

/-- The references of a chain. -/
def entryRefsOf (chain : List Builder) : List EntryRef :=
  resolve Builder.entryRefs fallback.entryRefs chain

/-- The settings of a chain. -/
def ofChain (chain : List Builder) : Settings :=
  ⟨cleartextOf chain, hstsOf chain, pinsOf chain, entryRefsOf chain⟩

@[simp] theorem resolve_nil
    (value : Builder → Option α)
    (otherwise : α) :
    resolve value otherwise [] = otherwise := rfl

end Settings

/-- The settings of a builder by itself. -/
def Builder.settings (builder : Builder) : Settings :=
  Settings.ofChain [builder]

end TrustPolicy
