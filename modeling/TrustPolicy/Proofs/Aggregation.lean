import TrustPolicy.Proofs.AnchorSets
import TrustPolicy.World.Anchors

/-!
# Aggregation

The anchors of a policy whose cell is empty are those that its references
contribute, in the order of the references, without the anchors whose
fingerprints occur earlier. The first source that fails decides the error; the
sources after it are not queried, and the cell stays empty.
-/

namespace TrustPolicy
namespace World

/-- The world after one query for each reference. -/
def queryAll
    (world : World)
    (entries : List EntryRef) : World :=
  entries.foldl (fun current entry => current.modifySource entry.source Source.queried) world

section Queries

variable
  {world : World}
  {source other : SourceId}
  {entry : EntryRef}
  {entries : List EntryRef}
  {certificates : List Certificate}
  {error : PolicyError}
  {gathered : AnchorSet}

/-- A query changes what no source answers. -/
theorem certificates_modifySource_queried :
    ((world.modifySource source Source.queried).sources.get other).certificates =
      (world.sources.get other).certificates := by
  rcases world.sources.get_modify_cases other source Source.queried with same | queried
  · rw [modifySource, same]
  · rw [modifySource, queried, Source.certificates_queried]

theorem label_modifySource_queried :
    (world.modifySource source Source.queried).label other = world.label other := by
  rcases world.sources.get_modify_cases other source Source.queried with same | queried
  · rw [label, modifySource, same, label]
  · rw [label, modifySource, queried, Source.label_queried, label]

theorem policies_queryAll : (world.queryAll entries).policies = world.policies := by
  induction entries generalizing world with
  | nil => rfl
  | cons entry entries inductionHypothesis => exact inductionHypothesis

theorem certificates_queryAll :
    ((world.queryAll entries).sources.get other).certificates =
      (world.sources.get other).certificates := by
  induction entries generalizing world with
  | nil => rfl
  | cons entry entries inductionHypothesis =>
      exact inductionHypothesis.trans certificates_modifySource_queried

theorem label_queryAll : (world.queryAll entries).label other = world.label other := by
  induction entries generalizing world with
  | nil => rfl
  | cons entry entries inductionHypothesis =>
      exact inductionHypothesis.trans label_modifySource_queried

theorem queryAll_concat :
    world.queryAll (entries ++ [entry]) =
      (world.queryAll entries).modifySource entry.source Source.queried :=
  List.foldl_append

theorem queryRef_of_ok
    (answer : (world.sources.get entry.source).certificates = .ok certificates) :
    world.queryRef entry =
      (.ok (entry.anchorsOf certificates), world.modifySource entry.source Source.queried) := by
  rw [queryRef, querySource, answer]

theorem queryRef_of_error
    (failure : (world.sources.get entry.source).certificates = .error error) :
    world.queryRef entry =
      (.error (EntryRef.wrapError (world.label entry.source) error),
        world.modifySource entry.source Source.queried) := by
  rw [queryRef, querySource, failure]

/-- References whose sources answer add their anchors in order, and the gathering
goes on with the references after them. -/
theorem gather_append
    {supply : EntryRef → List Certificate}
    (gathered : AnchorSet)
    (rest : List EntryRef)
    (answers : ∀ entry ∈ entries,
      (world.sources.get entry.source).certificates = .ok (supply entry)) :
    world.gather gathered (entries ++ rest) =
      (world.queryAll entries).gather
        (gathered.extend (entries.flatMap fun entry => entry.anchorsOf (supply entry))) rest := by
  induction entries generalizing world gathered with
  | nil => rfl
  | cons entry entries inductionHypothesis =>
      have answer : (world.sources.get entry.source).certificates = .ok (supply entry) :=
        answers entry List.mem_cons_self
      have restAnswers : ∀ later ∈ entries,
          ((world.modifySource entry.source Source.queried).sources.get later.source).certificates =
            .ok (supply later) := by
        intro later present
        rw [certificates_modifySource_queried]
        exact answers later (List.mem_cons_of_mem entry present)
      rw [List.cons_append, gather_cons, queryRef_of_ok answer, List.flatMap_cons,
        AnchorSet.extend_append]
      exact inductionHypothesis _ restAnswers

/-- A source that fails ends the gathering with its error under a label. -/
theorem gather_cons_of_error
    (rest : List EntryRef)
    (failure : (world.sources.get entry.source).certificates = .error error) :
    world.gather gathered (entry :: rest) =
      (.error (EntryRef.wrapError (world.label entry.source) error),
        (world.modifySource entry.source Source.queried).report
          (.sourceFailed (world.label entry.source)
            (EntryRef.wrapError (world.label entry.source) error))) := by
  rw [gather_cons, queryRef_of_error failure]
  dsimp only [reportFailure]
  rw [label_modifySource_queried]

/-- The first source that fails decides the outcome of a gathering. -/
theorem gather_of_error
    {before : List EntryRef}
    (gathered : AnchorSet)
    (after : List EntryRef)
    (answers : ∀ earlier ∈ before, ∃ certificates,
      (world.sources.get earlier.source).certificates = .ok certificates)
    (failure : (world.sources.get entry.source).certificates = .error error) :
    world.gather gathered (before ++ entry :: after) =
      (.error (EntryRef.wrapError (world.label entry.source) error),
        (world.queryAll (before ++ [entry])).report
          (.sourceFailed (world.label entry.source)
            (EntryRef.wrapError (world.label entry.source) error))) := by
  let supply (earlier : EntryRef) : List Certificate :=
    (world.sources.get earlier.source).certificates.toOption.getD []
  have supplies : ∀ earlier ∈ before,
      (world.sources.get earlier.source).certificates = .ok (supply earlier) := by
    intro earlier present
    obtain ⟨certificates, answer⟩ := answers earlier present
    simp [supply, answer, Except.toOption]
  have laterFailure :
      ((world.queryAll before).sources.get entry.source).certificates = .error error :=
    certificates_queryAll.trans failure
  rw [gather_append _ _ supplies, gather_cons_of_error _ laterFailure, label_queryAll,
    queryAll_concat]

end Queries

/-! ## Contributions -/

/-- An error that names no source is put under a label. -/
theorem wrapError_eq
    {label : String}
    {error : PolicyError}
    (unnamed : ¬∃ source cause, error = .certificateSource source cause) :
    EntryRef.wrapError label error = .certificateSource label error.message := by
  cases error with
  | certificateSource source cause => exact absurd ⟨source, cause, rfl⟩ unnamed
  | _ => rfl

/-- The first reference that contributes a fingerprint contributes the first anchor
of it. -/
theorem find?_contributions
    {supply : EntryRef → List Certificate}
    {before after : List EntryRef}
    {entry : EntryRef}
    {certificate : Certificate}
    (present : certificate ∈ supply entry)
    (fresh : ∀ earlier ∈ before, ∀ other ∈ supply earlier,
      other.fingerprint ≠ certificate.fingerprint) :
    ∃ anchor : Anchor,
      ((before ++ entry :: after).flatMap fun entry => entry.anchorsOf (supply entry)).find?
        (fun anchor => anchor.certificate.fingerprint = certificate.fingerprint) = some anchor ∧
      anchor.certificate.fingerprint = certificate.fingerprint ∧
      anchor.overridesPins = entry.overridesPins := by
  have noneBefore :
      (before.flatMap fun entry => entry.anchorsOf (supply entry)).find?
        (fun anchor => anchor.certificate.fingerprint = certificate.fingerprint) = none := by
    rw [List.find?_eq_none]
    intro anchor contributed
    obtain ⟨earlier, earlierIn, anchorIn⟩ := List.mem_flatMap.1 contributed
    obtain ⟨other, otherIn, rfl⟩ := List.mem_map.1 anchorIn
    simpa using fresh earlier earlierIn other otherIn
  obtain ⟨anchor, found⟩ : ∃ anchor,
      (entry.anchorsOf (supply entry)).find?
        (fun anchor => anchor.certificate.fingerprint = certificate.fingerprint) = some anchor := by
    rw [← Option.isSome_iff_exists, List.find?_isSome]
    exact ⟨⟨certificate, entry.overridesPins⟩, List.mem_map.2 ⟨certificate, present, rfl⟩, by simp⟩
  refine ⟨anchor, ?_, by simpa using List.find?_some found, ?_⟩
  · rw [List.flatMap_append, List.find?_append, noneBefore, Option.none_or, List.flatMap_cons,
      List.find?_append, found, Option.some_or]
  · obtain ⟨other, _, rfl⟩ := List.mem_map.1 (List.mem_of_find?_eq_some found)
    rfl

/-! ## Filling the cell -/

section Cell

variable
  {world next : World}
  {policy : PolicyId}
  {entries : List EntryRef}
  {anchors : AnchorSet}
  {snapshot : Snapshot}
  {error : PolicyError}

theorem aggregate_of_gather_ok
    (gathers : world.gather AnchorSet.empty entries = (.ok anchors, next)) :
    aggregate entries world =
      (.ok ⟨next.stamps, anchors⟩,
        { next with stamps := next.stamps + 1 }.report
          (.computedAnchors anchors.size entries.length)) := by
  rw [aggregate, gathers]
  rfl

theorem aggregate_of_gather_error
    (gathers : world.gather AnchorSet.empty entries = (.error error, next)) :
    aggregate entries world = (.error error, next) := by
  rw [aggregate, gathers]

/-- A computed snapshot is the answer of a policy with an empty cell, and fills it. -/
theorem trustAnchors_of_aggregate_ok
    (unfilled : (world.policies.get policy).anchors.isPopulated = false)
    (computes : aggregate (world.policies.get policy).settings.entryRefs world =
      (.ok snapshot, next)) :
    world.trustAnchors policy =
      (.ok snapshot, next.modifyPolicy policy fun current =>
        { current with anchors := ⟨some snapshot⟩ }) := by
  rw [trustAnchors, CacheCell.getOrTryInit_of_ok unfilled computes]

/-- A failed computation is the answer of a policy with an empty cell, and leaves
it empty. -/
theorem trustAnchors_of_aggregate_error
    (unfilled : (world.policies.get policy).anchors.isPopulated = false)
    (fails : aggregate (world.policies.get policy).settings.entryRefs world =
      (.error error, next))
    (samePolicies : next.policies = world.policies) :
    world.trustAnchors policy = (.error error, next) := by
  have unchanged : (next.modifyPolicy policy fun current =>
      { current with anchors := (world.policies.get policy).anchors }) = next := by
    rw [modifyPolicy, Arena.modify_eq_self]
    rw [samePolicies]
  rw [trustAnchors, CacheCell.getOrTryInit_of_error unfilled fails]
  exact congrArg (Prod.mk (Except.error error)) unchanged

end Cell

/-! ## The aggregate -/

/-- The answer of a policy whose cell is empty. If the sources of all references
answer, it is the list of what they contribute, each certificate with the flag of
its reference, without the anchors whose fingerprints occur earlier in the list;
so the first reference that contributes a fingerprint decides its flag. If some
source fails, it is the error of the first that does, under the label of the
source unless it names one already; the sources after it are not queried, and no
policy changes. -/
theorem trustAnchors_of_unfilled
    {world : World}
    {policy : PolicyId}
    (unfilled : (world.policies.get policy).anchors.isPopulated = false) :
    (∀ supply : EntryRef → List Certificate,
      (∀ entry ∈ (world.policies.get policy).settings.entryRefs,
        (world.sources.get entry.source).certificates = .ok (supply entry)) →
      ∃ snapshot next, world.trustAnchors policy = (.ok snapshot, next) ∧
        snapshot.anchors.anchors =
          Anchor.firstOccurrences
            ((world.policies.get policy).settings.entryRefs.flatMap fun entry =>
              (supply entry).map fun certificate => ⟨certificate, entry.overridesPins⟩) ∧
        (∀ before entry after certificate,
          (world.policies.get policy).settings.entryRefs = before ++ entry :: after →
          certificate ∈ supply entry →
          (∀ earlier ∈ before, ∀ other ∈ supply earlier,
            other.fingerprint ≠ certificate.fingerprint) →
          ∃ anchor, snapshot.anchors.find? certificate = some anchor ∧
            anchor.certificate.fingerprint = certificate.fingerprint ∧
            anchor.overridesPins = entry.overridesPins) ∧
        next.sources =
          (world.queryAll (world.policies.get policy).settings.entryRefs).sources) ∧
    (∀ before entry after error,
      (world.policies.get policy).settings.entryRefs = before ++ entry :: after →
      (∀ earlier ∈ before, ∃ certificates,
        (world.sources.get earlier.source).certificates = .ok certificates) →
      (world.sources.get entry.source).certificates = .error error →
      ∃ raised next, world.trustAnchors policy = (.error raised, next) ∧
        ((∃ source cause, error = .certificateSource source cause) → raised = error) ∧
        ((¬∃ source cause, error = .certificateSource source cause) →
          raised = .certificateSource (world.label entry.source) error.message) ∧
        next.policies = world.policies ∧
        next.sources = (world.queryAll (before ++ [entry])).sources) := by
  constructor
  · intro supply answers
    have gathers := gather_append AnchorSet.empty [] answers
    rw [List.append_nil] at gathers
    refine ⟨_, _, trustAnchors_of_aggregate_ok unfilled (aggregate_of_gather_ok gathers),
      AnchorSet.anchors_ofList _, ?_, rfl⟩
    intro before entry after certificate split present fresh
    rw [split]
    obtain ⟨anchor, found, same, flag⟩ := find?_contributions present fresh
    exact ⟨anchor, (AnchorSet.find?_ofList _).trans found, same, flag⟩
  · intro before entry after error split answers failure
    have gathers := gather_of_error AnchorSet.empty after answers failure
    rw [← split] at gathers
    refine ⟨_, _, trustAnchors_of_aggregate_error unfilled (aggregate_of_gather_error gathers)
      policies_queryAll, ?_, wrapError_eq, policies_queryAll, rfl⟩
    rintro ⟨source, cause, rfl⟩
    rfl

/-- A certificate whose names are empty. -/
def namelessCertificate : Certificate :=
  let der : List UInt8 := [
    0x30, 0x3C, 0x30, 0x32, 0x02, 0x01, 0x01, 0x30, 0x03, 0x06, 0x01, 0x2A, 0x30, 0x00,
    0x30, 0x1A, 0x17, 0x0B, 0x35, 0x30, 0x30, 0x31, 0x30, 0x31, 0x30, 0x30, 0x30, 0x30,
    0x5A, 0x17, 0x0B, 0x35, 0x30, 0x30, 0x31, 0x30, 0x31, 0x30, 0x30, 0x30, 0x30, 0x5A,
    0x30, 0x00, 0x30, 0x08, 0x30, 0x03, 0x06, 0x01, 0x2A, 0x03, 0x01, 0x00, 0x30, 0x03,
    0x06, 0x01, 0x2A, 0x03, 0x01, 0x00]
  ⟨der, ⟨[], []⟩, Sha256.digest der, by decide, rfl⟩

/-- Two references to one store with unlike flags, and a source that fails between two
stores. All stores count their queries: the one that stands behind two references is
queried twice, and the one after the source that fails is not queried. -/
theorem trustAnchors_of_repeated_and_failing_sources :
    let store : Source := ⟨"store", .counting { certificates := [namelessCertificate] }⟩
    let broken : Source :=
      ⟨"broken", .scripted { certificates := [], failure := some (.invalidPin "short") }⟩
    let later : Source := ⟨"later", .counting { certificates := [namelessCertificate] }⟩
    let repeated : Settings :=
      { Settings.fallback with entryRefs := [⟨⟨0⟩, false⟩, ⟨⟨0⟩, true⟩] }
    let failing : Settings :=
      { Settings.fallback with entryRefs := [⟨⟨0⟩, true⟩, ⟨⟨1⟩, false⟩, ⟨⟨2⟩, false⟩] }
    let world : World :=
      { initial with
        sources := ⟨[store, broken, later]⟩
        policies :=
          ⟨[Policy.ofSettings repeated none ⟨0⟩, Policy.ofSettings failing none ⟨1⟩]⟩ }
    (world.policies.get ⟨0⟩).anchors.isPopulated = false ∧
      (world.policies.get ⟨1⟩).anchors.isPopulated = false ∧
      (∃ snapshot next, world.trustAnchors ⟨0⟩ = (.ok snapshot, next) ∧
        snapshot.anchors.anchors = [⟨namelessCertificate, false⟩] ∧
        (next.sources.get ⟨0⟩).store =
          .counting { certificates := [namelessCertificate], queries := 2 }) ∧
      ∃ next, world.trustAnchors ⟨1⟩ =
          (.error (.certificateSource "broken" "invalid pin: short"), next) ∧
        next.policies = world.policies ∧
        (next.sources.get ⟨0⟩).store =
          .counting { certificates := [namelessCertificate], queries := 1 } ∧
        (next.sources.get ⟨2⟩).store =
          .counting { certificates := [namelessCertificate], queries := 0 } := by
  intro store broken later repeated failing world
  have repeatedUnfilled : (world.policies.get ⟨0⟩).anchors.isPopulated = false := rfl
  have failingUnfilled : (world.policies.get ⟨1⟩).anchors.isPopulated = false := rfl
  refine ⟨repeatedUnfilled, failingUnfilled, ?_, ?_⟩
  · have answers : ∀ entry ∈ repeated.entryRefs,
        (world.sources.get entry.source).certificates = .ok [namelessCertificate] := by
      intro entry present
      have cases : entry = ⟨⟨0⟩, false⟩ ∨ entry = ⟨⟨0⟩, true⟩ := by
        simpa [repeated] using present
      rcases cases with rfl | rfl <;> rfl
    obtain ⟨snapshot, next, answer, anchors, _, queried⟩ :=
      (trustAnchors_of_unfilled repeatedUnfilled).1 (fun _ => [namelessCertificate]) answers
    refine ⟨snapshot, next, answer, anchors.trans ?_, by rw [queried]; rfl⟩
    exact (Anchor.firstOccurrences_concat [⟨namelessCertificate, false⟩] _).trans
      (if_pos List.mem_cons_self)
  · have answers : ∀ earlier ∈ [(⟨⟨0⟩, true⟩ : EntryRef)], ∃ certificates,
        (world.sources.get earlier.source).certificates = .ok certificates := by
      intro earlier present
      obtain rfl := List.mem_singleton.1 present
      exact ⟨_, rfl⟩
    obtain ⟨raised, next, answer, _, wrapped, unchanged, queried⟩ :=
      (trustAnchors_of_unfilled failingUnfilled).2 [⟨⟨0⟩, true⟩] ⟨⟨1⟩, false⟩ [⟨⟨2⟩, false⟩]
        (.invalidPin "short") rfl answers rfl
    obtain rfl : raised = .certificateSource "broken" "invalid pin: short" :=
      wrapped (by simp)
    refine ⟨next, answer, unchanged, ?_, ?_⟩ <;> rw [queried] <;> rfl

end World
end TrustPolicy
