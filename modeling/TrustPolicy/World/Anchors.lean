import TrustPolicy.World.Basic

/-!
# Trust anchors of policies

The anchors of a policy are those of its references in order, each certificate
kept at its first occurrence. They are computed when the cell is empty and kept
in the cell until it is invalidated. The first failing source ends the
computation, and nothing is kept.
-/

namespace TrustPolicy

/-- The set of anchors that references add to a set, one reference after another. Each
query works on some state, and so does what is done about the first one that fails. -/
def gatherBy
    (query : σ → EntryRef → Except PolicyError (List Anchor) × σ)
    (giveUp : σ → EntryRef → PolicyError → σ)
    (state : σ)
    (gathered : AnchorSet) : List EntryRef → Except PolicyError AnchorSet × σ
  | [] => (.ok gathered, state)
  | entry :: rest =>
      match query state entry with
      | (.ok anchors, next) => gatherBy query giveUp next (gathered.extend anchors) rest
      | (.error error, next) => (.error error, giveUp next entry error)

/-- Queries that do the same on an image of the state gather the same set. -/
theorem gatherBy_image
    {query : σ → EntryRef → Except PolicyError (List Anchor) × σ}
    {giveUp : σ → EntryRef → PolicyError → σ}
    {queryImage : τ → EntryRef → Except PolicyError (List Anchor) × τ}
    {giveUpImage : τ → EntryRef → PolicyError → τ}
    {image : σ → τ}
    (queries : ∀ state entry,
      queryImage (image state) entry = ((query state entry).1, image (query state entry).2))
    (givesUp : ∀ state entry error,
      giveUpImage (image state) entry error = image (giveUp state entry error))
    (state : σ)
    (gathered : AnchorSet)
    (entries : List EntryRef) :
    gatherBy queryImage giveUpImage (image state) gathered entries =
      ((gatherBy query giveUp state gathered entries).1,
        image (gatherBy query giveUp state gathered entries).2) := by
  induction entries generalizing state gathered with
  | nil => rfl
  | cons entry rest inductionHypothesis =>
      rw [gatherBy, gatherBy, queries]
      rcases query state entry with ⟨raised | anchors, next⟩
      · exact congrArg (Prod.mk (Except.error raised)) (givesUp next entry raised)
      · exact inductionHypothesis next (gathered.extend anchors)

namespace World

/-- The certificates that a source answers with, and the world after the query. -/
def querySource
    (world : World)
    (source : SourceId) : Except PolicyError (List Certificate) × World :=
  ((world.sources.get source).certificates, world.modifySource source Source.queried)

/-- The anchors of a reference, and the world after the query. -/
def queryRef
    (world : World)
    (entry : EntryRef) : Except PolicyError (List Anchor) × World :=
  match world.querySource entry.source with
  | (.ok certificates, next) => (.ok (entry.anchorsOf certificates), next)
  | (.error error, next) => (.error (EntryRef.wrapError (world.label entry.source) error), next)

/-- The world with a report that the source of a reference has failed. -/
def reportFailure
    (world : World)
    (entry : EntryRef)
    (error : PolicyError) : World :=
  world.report (.sourceFailed (world.label entry.source) error)

/-- The set of anchors that references add to a set, one reference after another. -/
def gather
    (world : World)
    (gathered : AnchorSet)
    (entries : List EntryRef) : Except PolicyError AnchorSet × World :=
  gatherBy queryRef reportFailure world gathered entries

theorem gather_cons
    {world : World}
    {gathered : AnchorSet}
    {entry : EntryRef}
    {rest : List EntryRef} :
    world.gather gathered (entry :: rest) =
      match world.queryRef entry with
      | (.ok anchors, next) => next.gather (gathered.extend anchors) rest
      | (.error error, next) => (.error error, next.reportFailure entry error) := by
  rw [gather, gatherBy]
  rcases world.queryRef entry with ⟨_ | _, _⟩ <;> rfl

/-- A new snapshot of a set of anchors. -/
def stampSnapshot
    (world : World)
    (anchors : AnchorSet) : Snapshot × World :=
  (⟨world.stamps, anchors⟩, { world with stamps := world.stamps + 1 })

/-- The snapshot of the anchors of references. -/
def aggregate
    (entries : List EntryRef)
    (world : World) : Except PolicyError Snapshot × World :=
  match world.gather AnchorSet.empty entries with
  | (.error error, next) => (.error error, next)
  | (.ok anchors, next) =>
      let (snapshot, stamped) := next.stampSnapshot anchors
      (.ok snapshot, stamped.report (.computedAnchors anchors.size entries.length))

/-- The anchors of a policy, from its cell or computed anew. -/
def trustAnchors
    (world : World)
    (policy : PolicyId) : Except PolicyError Snapshot × World :=
  let found := world.policies.get policy
  let (result, cell, next) :=
    found.anchors.getOrTryInit (aggregate found.settings.entryRefs) world
  (result, next.modifyPolicy policy fun current => { current with anchors := cell })

/-- The world in which the anchors of a policy are no longer cached. -/
def invalidateAnchors
    (world : World)
    (policy : PolicyId) : World :=
  let (cell, wasPopulated) := (world.policies.get policy).anchors.invalidate
  let next := world.modifyPolicy policy fun current => { current with anchors := cell }
  if wasPopulated then next.report .invalidatedAnchors else next

end World
end TrustPolicy
