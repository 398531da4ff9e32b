import TrustPolicy.Source

/-!
# Entry references

A policy refers to certificate sources. A reference points at one source, which
it shares with all other references to it, and says whether the anchors from
there bypass pins. Two references are equal when they point at the same source
and have the same flag.
-/

namespace TrustPolicy

/-- A source as a policy refers to it. -/
structure EntryRef where
  source : SourceId
  /-- Whether anchors from this source bypass pins. -/
  overridesPins : Bool
  deriving DecidableEq

namespace EntryRef

/-- A source's certificates as anchors with the flag of the reference. -/
def anchorsOf
    (entry : EntryRef)
    (certificates : List Certificate) : List Anchor :=
  certificates.map fun certificate => ⟨certificate, entry.overridesPins⟩

/-- The error of a failed query: one that names a source already is kept, and
any other is put under the label of this source. -/
def wrapError
    (label : String)
    (error : PolicyError) : PolicyError :=
  match error with
  | .certificateSource source cause => .certificateSource source cause
  | other => .certificateSource label other.message

/-- The reference with the label of its source. -/
def describe
    (entry : EntryRef)
    (label : SourceId → String) : String :=
  Text.record "CertificateEntryRef"
    [("source", Text.quote (label entry.source)),
      ("overrides_pins", Text.truth entry.overridesPins)]

end EntryRef

end TrustPolicy
