import TrustPolicy.EntryRef
import TrustPolicy.PinSet

/-!
# Builders

A builder holds the values that one level of a hierarchy sets explicitly. A
value that is not set is left to the levels above. An empty list of references
or an empty pin set that was set counts as set.
-/

namespace TrustPolicy

/-- The explicit values of one level. -/
structure Builder where
  cleartextPermitted : Option Bool := none
  hstsEnforced : Option Bool := none
  pinSet : Option PinSet := none
  entryRefs : Option (List EntryRef) := none
  deriving DecidableEq

namespace Builder

/-- The builder that sets nothing. -/
def blank : Builder := {}

/-- A change to one value of a builder. -/
inductive Call
  | setCleartext (permitted : Bool)
  | setHsts (enforced : Bool)
  | setPins (pins : PinSet)
  | setRefs (entries : List EntryRef)
  | addRef (entry : EntryRef)
  | addRefs (entries : List EntryRef)
  deriving DecidableEq

/-- The builder with a permission for cleartext traffic. -/
def setCleartext
    (builder : Builder)
    (permitted : Bool) : Builder :=
  { builder with cleartextPermitted := some permitted }

/-- The builder with an enforcement of HSTS. -/
def setHsts
    (builder : Builder)
    (enforced : Bool) : Builder :=
  { builder with hstsEnforced := some enforced }

/-- The builder with a pin set. -/
def setPins
    (builder : Builder)
    (pins : PinSet) : Builder :=
  { builder with pinSet := some pins }

/-- The builder with references in place of those it had. -/
def setRefs
    (builder : Builder)
    (entries : List EntryRef) : Builder :=
  { builder with entryRefs := some entries }

/-- The builder with references after those it had. Even an empty list of
references makes the builder set its references. -/
def addRefs
    (builder : Builder)
    (entries : List EntryRef) : Builder :=
  { builder with entryRefs := some (builder.entryRefs.getD [] ++ entries) }

/-- The builder with one reference after those it had. -/
def addRef
    (builder : Builder)
    (entry : EntryRef) : Builder :=
  builder.addRefs [entry]

/-- The builder after a change. -/
def apply (builder : Builder) : Call → Builder
  | .setCleartext permitted => builder.setCleartext permitted
  | .setHsts enforced => builder.setHsts enforced
  | .setPins pins => builder.setPins pins
  | .setRefs entries => builder.setRefs entries
  | .addRef entry => builder.addRef entry
  | .addRefs entries => builder.addRefs entries

/-- The builder after changes in order. -/
def applyAll
    (builder : Builder)
    (calls : List Call) : Builder :=
  calls.foldl apply builder

/-- Whether this level sets its references. -/
def hasEntryRefs (builder : Builder) : Bool :=
  builder.entryRefs.isSome

/-- The builder with its values, given the labels of sources. -/
def describe
    (builder : Builder)
    (label : SourceId → String) : String :=
  Text.record "PolicyBuilder"
    [("cleartext_traffic_permitted", Text.optional (builder.cleartextPermitted.map Text.truth)),
      ("hsts_enforced", Text.optional (builder.hstsEnforced.map Text.truth)),
      ("pin_set", Text.optional (builder.pinSet.map PinSet.describe)),
      ("certificate_entry_refs", Text.optional (builder.entryRefs.map fun entries =>
        Text.listing (entries.map fun entry => entry.describe label)))]

end Builder
end TrustPolicy
