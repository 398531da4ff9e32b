import TrustPolicy.Proofs.References
import TrustPolicy.World.Notifier

/-!
# Announcing

An announcement is a sequence of deeds: each source of the notifier is told that
storage has changed, and after that the anchors of each of its living policies
are dropped. No source that is told sees a policy whose anchors were dropped by
this announcement.
-/

namespace TrustPolicy

namespace Policy

/-- The policy without cached anchors. -/
def emptied (policy : Policy) : Policy :=
  { policy with anchors := CacheCell.empty }

@[simp] theorem emptied_emptied (policy : Policy) : policy.emptied.emptied = policy.emptied := rfl

end Policy

namespace World

/-- What an announcement does, one after another. -/
inductive Deed
  | tell (source : SourceId)
  | drop (policy : PolicyId)
  deriving DecidableEq

/-- The world after a deed. -/
def carryOut (world : World) : Deed → World
  | .tell source => world.announceTo source
  | .drop policy => world.invalidateAnchors policy

/-! ## Telling sources -/

section Telling

variable
  {world : World}
  {sources : List SourceId}
  {source : SourceId}

/-- Telling sources changes nothing but sources. -/
theorem foldl_announceTo_eq :
    sources.foldl announceTo world =
      { world with sources := (sources.foldl announceTo world).sources } := by
  induction sources generalizing world with
  | nil => rfl
  | cons told rest inductionHypothesis =>
      rw [List.foldl_cons, inductionHypothesis]
      rfl

theorem isAlive_foldl_announceTo : (sources.foldl announceTo world).isAlive = world.isAlive := by
  rw [foldl_announceTo_eq]
  rfl

theorem lookAt_eq
    {policy : PolicyId} :
    world.lookAt policy =
      if world.isAlive policy then some (world.policies.get policy).anchors.isPopulated
      else none := by
  rw [lookAt, upgrade]
  split <;> rfl

/-- What is seen of policies does not depend on sources. -/
theorem lookAt_of_sources
    (sources : Arena .source Source) :
    { world with sources := sources }.lookAt = world.lookAt := by
  funext policy
  rw [lookAt_eq, lookAt_eq]
  rfl

/-- A source that is told after others sees the policies as they were before. -/
theorem lookAt_foldl_announceTo : (sources.foldl announceTo world).lookAt = world.lookAt := by
  rw [foldl_announceTo_eq]
  exact lookAt_of_sources _

/-- Only the source that is told hears anything. -/
theorem get_announceTo {told : SourceId} :
    (world.announceTo told).sources.get source =
      if source = told then (world.sources.get source).announced world.lookAt
      else world.sources.get source :=
  Arena.get_modify rfl

theorem holds_source_foldl_announceTo :
    (sources.foldl announceTo world).sources.Holds source ↔ world.sources.Holds source := by
  induction sources generalizing world with
  | nil => rfl
  | cons told rest inductionHypothesis =>
      rw [List.foldl_cons, inductionHypothesis]
      exact Arena.holds_modify

/-- Distinct sources that are told hear it once, and no other source does. -/
theorem get_foldl_announceTo
    (distinct : sources.Nodup) :
    (sources.foldl announceTo world).sources.get source =
      if source ∈ sources then (world.sources.get source).announced world.lookAt
      else world.sources.get source := by
  induction sources generalizing world with
  | nil => simp
  | cons told rest inductionHypothesis =>
      obtain ⟨absent, distinctRest⟩ := List.nodup_cons.1 distinct
      have sameLook : (world.announceTo told).lookAt = world.lookAt := lookAt_of_sources _
      rw [List.foldl_cons, inductionHypothesis distinctRest, get_announceTo, sameLook]
      by_cases same : source = told
      · subst same
        simp [absent]
      · simp [same]

end Telling

/-! ## Dropping anchors -/

section Dropping

variable
  {world : World}
  {policy dropped : PolicyId}
  {policies : List PolicyId}

/-- Dropping anchors changes nothing but policies, and may be reported. -/
theorem invalidateAnchors_eq :
    world.invalidateAnchors dropped =
      { world with
        policies := world.policies.modify dropped Policy.emptied
        events := (world.invalidateAnchors dropped).events } := by
  rw [invalidateAnchors]
  dsimp only [CacheCell.invalidate]
  split <;> rfl

theorem get_invalidateAnchors :
    (world.invalidateAnchors dropped).policies.get policy =
      if policy = dropped then (world.policies.get policy).emptied
      else world.policies.get policy := by
  rw [invalidateAnchors_eq]
  exact Arena.get_modify rfl

theorem foldl_invalidateAnchors_eq :
    policies.foldl invalidateAnchors world =
      { world with
        policies := (policies.foldl invalidateAnchors world).policies
        events := (policies.foldl invalidateAnchors world).events } := by
  induction policies generalizing world with
  | nil => rfl
  | cons dropped rest inductionHypothesis =>
      rw [List.foldl_cons, inductionHypothesis, invalidateAnchors_eq]

theorem holds_foldl_invalidateAnchors :
    (policies.foldl invalidateAnchors world).policies.Holds policy ↔
      world.policies.Holds policy := by
  induction policies generalizing world with
  | nil => rfl
  | cons dropped rest inductionHypothesis =>
      rw [List.foldl_cons, inductionHypothesis, invalidateAnchors_eq]
      exact Arena.holds_modify

/-- The anchors of exactly the given policies are dropped. -/
theorem get_foldl_invalidateAnchors :
    (policies.foldl invalidateAnchors world).policies.get policy =
      if policy ∈ policies then (world.policies.get policy).emptied
      else world.policies.get policy := by
  induction policies generalizing world with
  | nil => simp
  | cons dropped rest inductionHypothesis =>
      rw [List.foldl_cons, inductionHypothesis, get_invalidateAnchors]
      by_cases same : policy = dropped
      · subst same
        simp
      · simp [same]

end Dropping

/-! ## Announcements -/

section Announcing

variable
  {world : World}
  {notifier : Notifier}
  {policy : PolicyId}
  {source : SourceId}

/-- The deeds of an announcement, the oldest first. -/
def deeds
    (world : World)
    (notifier : Notifier) : List Deed :=
  notifier.sources.map .tell ++ (notifier.policies.filter world.isAlive).map .drop

/-- An announcement upgrades the entries that it has kept, all of which are of living
policies, and drops the references again after the invalidations. -/
theorem announce_eq_of_told :
    world.announce notifier =
      ((notifier.prune world).policies.length, notifier.prune world,
        ((notifier.prune world).policies.foldl invalidateAnchors
          (notifier.sources.foldl announceTo world)).report
            (.trustStoreChanged notifier.sources.length
              (notifier.prune world).policies.length)) := by
  have samePrune : notifier.prune (notifier.sources.foldl announceTo world) =
      notifier.prune world := by
    rw [Notifier.prune, isAlive_foldl_announceTo, Notifier.prune]
  have allAlive : (notifier.prune world).policies.filter
      (notifier.sources.foldl announceTo world).isAlive = (notifier.prune world).policies := by
    rw [isAlive_foldl_announceTo]
    exact List.filter_eq_self.2 fun policy kept => (List.mem_filter.1 kept).2
  rw [announce, announceBy, invalidateRegistered, samePrune, upgradeAll_eq, allAlive]
  dsimp only
  rw [releaseAll_of_retain_comm fun held : World =>
    ((notifier.prune world).policies.foldl invalidateAnchors held).report _]
  intro held policy
  exact congrArg (report · _) (List.foldl_hom (retain · policy) invalidateAnchors_retain).symm

/-- An announcement carries out its deeds, counts the policies whose anchors were
dropped, and keeps the entries of those alone. -/
theorem announce_eq :
    world.announce notifier =
      ((notifier.prune world).policies.length, notifier.prune world,
        ((world.deeds notifier).foldl carryOut world).report
          (.trustStoreChanged notifier.sources.length (notifier.prune world).policies.length)) := by
  rw [announce_eq_of_told, deeds, List.foldl_append, List.foldl_map, List.foldl_map]
  rfl

theorem announce_snd_fst : (world.announce notifier).2.1 = notifier.prune world := by
  rw [announce_eq]

/-- An announcement changes nothing but sources and policies, and reports. -/
theorem announce_snd_snd_eq :
    (world.announce notifier).2.2 =
      { world with
        sources := (notifier.sources.foldl announceTo world).sources
        policies := (world.announce notifier).2.2.policies
        events := (world.announce notifier).2.2.events } := by
  rw [announce_eq_of_told]
  dsimp only
  rw [foldl_invalidateAnchors_eq, foldl_announceTo_eq]
  rfl

/-- An announcement drops the anchors of the living policies of the notifier, and
leaves everything else about policies as it was. -/
theorem get_announce :
    (world.announce notifier).2.2.policies.get policy =
      if policy ∈ notifier.policies ∧ world.isAlive policy = true then
        (world.policies.get policy).emptied
      else world.policies.get policy := by
  have samePolicies : (notifier.sources.foldl announceTo world).policies = world.policies := by
    rw [foldl_announceTo_eq]
  rw [announce_eq_of_told]
  dsimp only [report]
  rw [get_foldl_invalidateAnchors, samePolicies]
  simp only [Notifier.prune, List.mem_filter]

theorem holds_announce :
    (world.announce notifier).2.2.policies.Holds policy ↔ world.policies.Holds policy := by
  rw [announce_eq_of_told]
  dsimp only [report]
  rw [holds_foldl_invalidateAnchors, foldl_announceTo_eq]

end Announcing

end World
end TrustPolicy
