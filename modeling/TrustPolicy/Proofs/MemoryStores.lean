import Mathlib.Data.List.Nodup
import TrustPolicy.Proofs.Registrations

/-!
# Memory stores

Certificates are put into a memory store and taken out of it one by one, or replaced all at
once. Whatever is done in whatever order, the store is a list without repetition. So a
certificate that is taken out leaves no second one behind, and a policy that refers to the
store alone has one anchor for each certificate, in the order of the store.
-/

namespace TrustPolicy

/-- Anchors with distinct fingerprints are first occurrences, all of them. -/
theorem Anchor.firstOccurrences_eq_self
    {anchors : List Anchor}
    (distinct : (anchors.map (·.certificate.fingerprint)).Nodup) :
    Anchor.firstOccurrences anchors = anchors := by
  induction anchors using List.reverseRecOn with
  | nil => rfl
  | append_singleton anchors anchor inductionHypothesis =>
      rw [List.map_append, List.map_singleton, List.nodup_append] at distinct
      obtain ⟨distinctBefore, -, apart⟩ := distinct
      have fresh :
          anchor.certificate.fingerprint ∉ anchors.map (·.certificate.fingerprint) :=
        fun known => apart _ known _ (List.mem_singleton.2 rfl) rfl
      rw [Anchor.firstOccurrences_concat, if_neg fresh, inductionHypothesis distinctBefore]

namespace MemoryStore

/-- A call that changes a memory store. -/
inductive Call
  | add (certificate : Certificate)
  | remove (certificate : Certificate)
  | replace (certificates : List Certificate)

/-- The store after a call. -/
def apply (store : MemoryStore) : Call → MemoryStore
  | .add certificate => (store.add certificate).1
  | .remove certificate => (store.remove certificate).1
  | .replace certificates => ofList certificates

/-- The store after calls in order. -/
def applyAll
    (store : MemoryStore)
    (calls : List Call) : MemoryStore :=
  calls.foldl apply store

/-- Whether some calls lead from a store that was made of a list to this one. -/
def Reachable (store : MemoryStore) : Prop :=
  ∃ certificates calls, (ofList certificates).applyAll calls = store

section Calls

variable
  {store : MemoryStore}
  {certificate : Certificate}
  {before after : List Certificate}

/-! ## Single calls -/

theorem add_of_mem
    (present : certificate ∈ store.certificates) :
    store.add certificate = (store, false) := by
  rw [add, List.contains_iff_mem.2 present]
  rfl

theorem add_of_notMem
    (absent : certificate ∉ store.certificates) :
    store.add certificate = (⟨store.certificates ++ [certificate]⟩, true) := by
  have uncontained : store.certificates.contains certificate = false := by
    rwa [← Bool.not_eq_true, List.contains_iff_mem]
  rw [add, uncontained]
  rfl

/-- A certificate that is in no other place of the store leaves the rest in order. -/
theorem remove_of_split
    (distinct : store.certificates.Nodup)
    (split : store.certificates = before ++ certificate :: after) :
    store.remove certificate = (⟨before ++ after⟩, true) := by
  rw [split, List.nodup_middle, List.nodup_cons, List.mem_append, not_or] at distinct
  obtain ⟨⟨notBefore, notAfter⟩, -⟩ := distinct
  have kept : store.certificates.filter (fun other => other != certificate) = before ++ after := by
    rw [split, List.filter_append, List.filter_cons, List.filter_bne_eq_self_of_not_mem notBefore,
      List.filter_bne_eq_self_of_not_mem notAfter]
    simp
  rw [remove, kept, split]
  simp

theorem remove_of_notMem
    (absent : certificate ∉ store.certificates) :
    store.remove certificate = (store, false) := by
  rw [remove, List.filter_bne_eq_self_of_not_mem absent]
  simp

/-- A store that is made of a list holds each of its members where it occurs first. -/
theorem certificates_ofList
    (certificates : List Certificate) :
    (ofList certificates).certificates = certificates.eraseDups := by
  induction certificates using List.reverseRecOn with
  | nil => rfl
  | append_singleton certificates certificate inductionHypothesis =>
      have last : ofList (certificates ++ [certificate]) =
          ((ofList certificates).add certificate).1 := List.foldl_append
      have known : certificate ∈ (ofList certificates).certificates ↔
          certificate ∈ certificates := by
        rw [inductionHypothesis, List.mem_eraseDups]
      rw [last, eraseDups_concat]
      by_cases present : certificate ∈ certificates
      · rw [if_pos present, add_of_mem (known.2 present), inductionHypothesis]
      · rw [if_neg present, add_of_notMem (mt known.1 present), inductionHypothesis]

/-! ## Distinct certificates -/

theorem nodup_add
    (distinct : store.certificates.Nodup) :
    (store.add certificate).1.certificates.Nodup := by
  by_cases present : certificate ∈ store.certificates
  · rwa [add_of_mem present]
  · rw [add_of_notMem present, ← List.concat_eq_append]
    exact distinct.concat present

theorem nodup_ofList
    (certificates : List Certificate) :
    (ofList certificates).certificates.Nodup :=
  List.foldlRecOn certificates (motive := fun store : MemoryStore => store.certificates.Nodup) _
    List.nodup_nil fun _ distinct _ _ => nodup_add distinct

/-- No call puts a certificate into the store that is there. -/
theorem nodup_apply
    (distinct : store.certificates.Nodup)
    (call : Call) :
    (store.apply call).certificates.Nodup := by
  cases call with
  | add certificate => exact nodup_add distinct
  | remove certificate => exact distinct.filter _
  | replace certificates => exact nodup_ofList certificates

theorem Reachable.nodup
    (reachable : store.Reachable) :
    store.certificates.Nodup := by
  obtain ⟨certificates, calls, rfl⟩ := reachable
  exact List.foldlRecOn calls (motive := fun store : MemoryStore => store.certificates.Nodup) _
    (nodup_ofList certificates) fun _ distinct call _ => nodup_apply distinct call

theorem reachable_ofList
    (certificates : List Certificate) :
    (ofList certificates).Reachable :=
  ⟨certificates, [], rfl⟩

theorem Reachable.apply
    (reachable : store.Reachable)
    (call : Call) :
    (store.apply call).Reachable := by
  obtain ⟨certificates, calls, rfl⟩ := reachable
  exact ⟨certificates, calls ++ [call], List.foldl_append⟩

end Calls

end MemoryStore

/-! ## Sources of sessions -/

namespace Source

/-- Whether a source, if it is a memory store, is one that calls lead to. -/
def IsReached (source : Source) : Prop :=
  ∀ store, source.store = .memory store → store.Reachable

section Reached

variable
  {source : Source}
  {label : String}

theorem isReached_memory
    {store : MemoryStore}
    (reachable : store.Reachable) :
    IsReached ⟨label, .memory store⟩ := by
  rintro _ ⟨⟩
  exact reachable

theorem isReached_counting
    {store : CountingStore} :
    IsReached ⟨label, .counting store⟩ := by
  rintro _ ⟨⟩

theorem isReached_scripted
    {store : ScriptedStore} :
    IsReached ⟨label, .scripted store⟩ := by
  rintro _ ⟨⟩

theorem isReached_ofKind
    {kind : Store.Kind}
    {certificates : List Certificate} :
    IsReached ⟨label, Store.ofKind kind certificates⟩ := by
  cases kind with
  | memory => exact isReached_memory (MemoryStore.reachable_ofList certificates)
  | counting => exact isReached_counting
  | scripted => exact isReached_scripted

/-- Queries leave memory stores as they are. -/
theorem IsReached.queriedTimes
    (reached : source.IsReached)
    (times : Nat) :
    (source.queriedTimes times).IsReached := by
  obtain ⟨label, store⟩ := source
  cases store with
  | memory store => exact reached
  | counting store => exact isReached_counting
  | scripted store => exact reached

/-- So do announcements. -/
theorem IsReached.announced
    (reached : source.IsReached)
    (look : PolicyId → Option Bool) :
    (source.announced look).IsReached := by
  obtain ⟨label, store⟩ := source
  cases store with
  | memory store => exact reached
  | counting store => exact isReached_counting
  | scripted store => exact isReached_scripted

end Reached

namespace Change

/-- Whether a change leads from memory stores that calls lead to, to such stores. -/
def KeepsReached (change : Change) : Prop :=
  ∀ source : Source, source.IsReached → (change.apply source).IsReached

theorem keepsReached_memory
    {change : MemoryStore → MemoryStore}
    (keeps : ∀ store, store.Reachable → (change store).Reachable) :
    (memory change).KeepsReached := by
  rintro ⟨label, store⟩ reached
  cases store with
  | memory store => exact isReached_memory (keeps store (reached store rfl))
  | counting store => exact reached
  | scripted store => exact reached

theorem keepsReached_scripted
    {change : ScriptedStore → ScriptedStore} :
    (scripted change).KeepsReached := by
  rintro ⟨label, store⟩ reached
  cases store with
  | memory store => exact reached
  | counting store => exact reached
  | scripted store => exact isReached_scripted

theorem keepsReached_failing
    {told : Bool} :
    (failing told).KeepsReached := by
  rintro ⟨label, store⟩ reached
  cases store with
  | memory store => exact reached
  | counting store => exact isReached_counting
  | scripted store => exact reached

theorem keepsReached_replace
    {certificates : List Certificate} :
    (replace certificates).KeepsReached := by
  rintro ⟨label, store⟩ -
  cases store with
  | memory store => exact isReached_memory (MemoryStore.reachable_ofList certificates)
  | counting store => exact isReached_counting
  | scripted store => exact isReached_scripted

end Change

end Source

namespace World

/-- Whether calls on memory stores led to all those of a world. -/
def HasReachedStores (world : World) : Prop :=
  ∀ source, (world.sources.get source).IsReached

/-- Whether the sources that a call makes or changes are reached after it if they were before. -/
def Call.KeepsReached : Call → Prop
  | .addSource source => source.IsReached
  | .changeSource _ change => change.KeepsReached
  | _ => True

section Reached

variable
  {world : World}
  {call : Call}

theorem hasReachedStores_initial : initial.HasReachedStores := fun _ =>
  Source.isReached_memory (MemoryStore.reachable_ofList [])

theorem HasReachedStores.queryEach
    (reached : world.HasReachedStores)
    (sources : List SourceId) :
    (world.queryEach sources).HasReachedStores := by
  intro source
  rw [get_queryEach]
  exact (reached source).queriedTimes _

theorem HasReachedStores.foldl_announceTo
    (reached : world.HasReachedStores)
    (sources : List SourceId) :
    (sources.foldl announceTo world).HasReachedStores := by
  refine List.foldlRecOn sources (motive := HasReachedStores) _ reached ?_
  intro before reached told _ source
  rw [get_announceTo]
  split
  · exact (reached source).announced _
  · exact reached source

theorem HasReachedStores.perform
    (reached : world.HasReachedStores)
    (keeps : call.KeepsReached) :
    (world.perform call).HasReachedStores := by
  have afterRead (read : PolicyId) : (world.perform (.trustAnchors read)).HasReachedStores := by
    intro source
    rw [World.perform, sources_trustAnchors]
    exact reached.queryEach _ source
  cases call with
  | trustAnchors read => exact afterRead read
  | acceptedIssuers manager =>
      rw [perform_acceptedIssuers]
      split
      · exact afterRead manager.policy
      · exact reached
  | trustManager asked =>
      obtain ⟨_, _, _, _, _, after⟩ := world.exists_trustManager_snd_eq asked
      rw [World.perform, after]
      exact reached
  | invalidateAnchors dropped =>
      rw [World.perform, invalidateAnchors_eq]
      exact reached
  | announce notifier =>
      rw [World.perform, announce_snd_snd_eq]
      exact reached.foldl_announceTo notifier.sources
  | querySource queried => exact reached.queryEach [queried]
  | addSource added =>
      intro source
      rw [World.perform, Arena.get_add]
      split
      · exact keeps
      · exact reached source
  | changeSource changed change =>
      intro source
      rcases world.sources.get_modify_cases source changed change.apply with same | applied
      · exact same.symm ▸ reached source
      · exact applied.symm ▸ keeps _ (reached source)
  | installDefault name sources =>
      rw [perform_installDefault]
      split <;> exact reached
  | ownDefault name =>
      rw [perform_ownDefault]
      exact reached
  | _ => exact reached

end Reached

end World

section Steps

open Session

variable {session : Session}

theorem SourceStep.keepsReached
    (step : SourceStep) :
    ∀ call ∈ step.calls session, call.KeepsReached := by
  cases step with
  | make name label kind names =>
      simp only [SourceStep.calls, forall_mem_callsOn, List.forall_mem_singleton]
      exact fun _ _ => Source.isReached_ofKind
  | add name certificate =>
      simp only [SourceStep.calls, forall_mem_callsOn, List.forall_mem_singleton]
      exact fun _ _ certificate _ =>
        Source.Change.keepsReached_memory fun _ reachable => reachable.apply (.add certificate)
  | remove name certificate =>
      simp only [SourceStep.calls, forall_mem_callsOn, List.forall_mem_singleton]
      exact fun _ _ certificate _ =>
        Source.Change.keepsReached_memory fun _ reachable => reachable.apply (.remove certificate)
  | replace name names =>
      simp only [SourceStep.calls, forall_mem_callsOn, List.forall_mem_singleton]
      exact fun _ _ _ _ => Source.Change.keepsReached_replace
  | setFailing name failing =>
      simp only [SourceStep.calls, forall_mem_callsOn, List.forall_mem_singleton]
      exact fun _ _ => Source.Change.keepsReached_failing
  | setFailure name failure =>
      simp only [SourceStep.calls, forall_mem_callsOn, List.forall_mem_singleton]
      exact fun _ _ => Source.Change.keepsReached_scripted
  | watch name policy =>
      simp only [SourceStep.calls, forall_mem_callsOn, List.forall_mem_singleton]
      exact fun _ _ _ _ => Source.Change.keepsReached_scripted
  | _ => simp [SourceStep.calls, forall_mem_callsOn, World.Call.KeepsReached]

theorem BuilderStep.keepsReached
    (step : BuilderStep) :
    ∀ call ∈ step.calls session, call.KeepsReached := by
  cases step <;> simp [BuilderStep.calls, forall_mem_callsOn, World.Call.KeepsReached]

theorem PolicyStep.keepsReached
    (step : PolicyStep) :
    ∀ call ∈ step.calls session, call.KeepsReached := by
  cases step with
  | demand name what callers =>
      cases what <;> simp [PolicyStep.calls, forall_mem_callsOn, World.Call.KeepsReached]
  | _ => simp [PolicyStep.calls, forall_mem_callsOn, World.Call.KeepsReached]

theorem ValueStep.keepsReached
    (step : ValueStep) :
    ∀ call ∈ step.calls session, call.KeepsReached := by
  cases step with
  | makeDefaultSources name given =>
      cases given with
      | none =>
          have reached (label : String) : Source.IsReached ⟨label, .memory .empty⟩ :=
            Source.isReached_memory (MemoryStore.reachable_ofList [])
          exact List.forall_mem_cons.2
            ⟨reached "system", List.forall_mem_singleton.2 (reached "user")⟩
      | some labels => simp [ValueStep.calls]
  | _ => simp [ValueStep.calls, forall_mem_callsOn, World.Call.KeepsReached]

end Steps

namespace Session

variable {session : Session}

theorem hasReachedStores_step
    (step : Step)
    (reached : session.world.HasReachedStores) :
    (session.step step).2.world.HasReachedStores := by
  have keeps : ∀ call ∈ session.calls step, call.KeepsReached := by
    cases step with
    | source step => exact step.keepsReached
    | builder step => exact step.keepsReached
    | policy step => exact step.keepsReached
    | value step => exact step.keepsReached
    | events => exact List.forall_mem_singleton.2 trivial
  rw [world_step]
  exact World.performAll_induction reached fun _ call present reachedBefore =>
    reachedBefore.perform (keeps call present)

/-- Whatever steps a session takes, calls led to each of its memory stores. -/
theorem hasReachedStores_run
    (steps : List Step) :
    (initial.run steps).2.world.HasReachedStores :=
  run_induction (motive := fun session => session.world.HasReachedStores)
    World.hasReachedStores_initial fun _ step _ => hasReachedStores_step step

end Session

/-! ## Ordered sets -/

/-- A policy that refers to one memory store alone has an anchor for each of its certificates, if
their fingerprints tell them apart. -/
theorem World.trustAnchors_of_only_store
    {world : World}
    {policy : PolicyId}
    {source : SourceId}
    {store : MemoryStore}
    {flag : Bool}
    (distinct : (store.certificates.map Certificate.fingerprint).Nodup)
    (stored : (world.sources.get source).store = .memory store)
    (refers : (world.policies.get policy).settings.entryRefs = [⟨source, flag⟩])
    (unfilled : (world.policies.get policy).anchors.slot = none) :
    ∃ snapshot, (world.trustAnchors policy).1 = .ok snapshot ∧
      snapshot.anchors.anchors =
        store.certificates.map fun certificate => ⟨certificate, flag⟩ := by
  have supplied : (world.sources.get source).certificates = .ok store.certificates := by
    rw [Source.certificates, stored]
  have contributes : world.contributions (world.policies.get policy).settings.entryRefs =
      .ok (EntryRef.anchorsOf ⟨source, flag⟩ store.certificates) := by
    rw [refers, contributions_cons_eq_ok_iff]
    exact ⟨_, _, supplied, rfl, (List.append_nil _).symm⟩
  rw [trustAnchors_of_contributions_ok unfilled contributes]
  refine ⟨_, rfl, (AnchorSet.anchors_ofList _).trans (Anchor.firstOccurrences_eq_self ?_)⟩
  rw [EntryRef.anchorsOf, List.map_map]
  exact distinct

namespace MemoryStore

/-- What is done with a store that is an ordered set of certificates. -/
structure IsOrderedSet (store : MemoryStore) : Prop where
  distinct : store.certificates.Nodup
  /-- A query is answered with the certificates as they stand. -/
  queried : ∀ label, Source.certificates ⟨label, .memory store⟩ = .ok store.certificates
  sized : store.size = store.certificates.length ∧
    (store.isEmpty = true ↔ store.certificates = [])
  /-- A certificate that is absent is added at the end. -/
  adds : ∀ certificate, certificate ∉ store.certificates →
    store.add certificate = (⟨store.certificates ++ [certificate]⟩, true)
  knows : ∀ certificate, certificate ∈ store.certificates →
    store.add certificate = (store, false)
  /-- A certificate that is present is taken out, and all others stay in order. -/
  removes : ∀ before certificate after,
    store.certificates = before ++ certificate :: after →
    store.remove certificate = (⟨before ++ after⟩, true)
  misses : ∀ certificate, certificate ∉ store.certificates →
    store.remove certificate = (store, false)
  /-- What replaces the certificates does not depend on them. -/
  replaced : ∀ certificates,
    (Store.memory store).replace certificates = .memory ⟨certificates.eraseDups⟩
  /-- A policy that refers to the store alone, and has no anchors cached, has one anchor for each
  certificate of the store, if no two of them have the same fingerprint. -/
  supplies : ∀ (world : World) policy source flag,
    (world.sources.get source).store = .memory store →
    (world.policies.get policy).settings.entryRefs = [⟨source, flag⟩] →
    (world.policies.get policy).anchors.slot = none →
    (∀ first ∈ store.certificates, ∀ second ∈ store.certificates,
      first.fingerprint = second.fingerprint → first = second) →
    ∃ snapshot, (world.trustAnchors policy).1 = .ok snapshot ∧
      snapshot.anchors.anchors =
        store.certificates.map (fun certificate => ⟨certificate, flag⟩) ∧
      snapshot.anchors.size = store.size

theorem Reachable.isOrderedSet
    {store : MemoryStore}
    (reachable : store.Reachable) :
    store.IsOrderedSet where
  distinct := reachable.nodup
  queried label := rfl
  sized := ⟨rfl, List.isEmpty_iff⟩
  adds certificate := add_of_notMem
  knows certificate := add_of_mem
  removes before certificate after := remove_of_split reachable.nodup
  misses certificate := remove_of_notMem
  replaced certificates := by rw [Store.replace, ← certificates_ofList]
  supplies world policy source flag stored refers unfilled apart := by
    have distinct : (store.certificates.map Certificate.fingerprint).Nodup :=
      reachable.nodup.map_on apart
    obtain ⟨snapshot, answer, anchors⟩ :=
      World.trustAnchors_of_only_store distinct stored refers unfilled
    refine ⟨snapshot, answer, anchors, ?_⟩
    rw [AnchorSet.size, anchors, List.length_map, size]

/-- A memory store that is made of a list holds its members in the order of their first
occurrences. Whatever calls follow, the store is an ordered set. The memory stores of a session
are such stores, whatever steps it takes. -/
theorem orderedSets :
    (∀ certificates, Store.ofKind .memory certificates = .memory ⟨certificates.eraseDups⟩) ∧
      (∀ store : MemoryStore, store.Reachable → store.IsOrderedSet) ∧
      ∀ steps source store,
        ((Session.initial.run steps).2.world.sources.get source).store = .memory store →
        store.Reachable := by
  refine ⟨fun certificates => ?_, fun store => Reachable.isOrderedSet, ?_⟩
  · rw [Store.ofKind, ← certificates_ofList]
  · exact fun steps source => Session.hasReachedStores_run steps source

/-- Two certificates, the first of which is given twice, added again, removed, and put back behind
the second. A policy that refers to the store has an anchor for each of them in the new order. -/
theorem orderedSets_of_repeated_certificates :
    let first := World.namelessCertificate
    let second : Certificate := ⟨first.der.set 6 0x02, ⟨[], []⟩, _, by decide, rfl⟩
    let store := (ofList [first, first]).applyAll
      [.add second, .add first, .remove first, .replace [second, first, second]]
    let settings : Settings := { Settings.fallback with entryRefs := [⟨⟨0⟩, true⟩] }
    let world : World :=
      { World.initial with
        sources := ⟨[⟨"store", .memory store⟩]⟩
        policies := ⟨[Policy.ofSettings settings none ⟨0⟩]⟩ }
    store.Reachable ∧ store.certificates = [second, first] ∧
      store.add first = (store, false) ∧ store.remove second = (⟨[first]⟩, true) ∧
      ∃ snapshot, (world.trustAnchors ⟨0⟩).1 = .ok snapshot ∧
        snapshot.anchors.anchors = [⟨second, true⟩, ⟨first, true⟩] ∧
        snapshot.anchors.size = store.size := by
  intro first second store settings world
  obtain ⟨-, ordered, -⟩ := orderedSets
  have reachable : store.Reachable := ⟨_, _, rfl⟩
  have isOrdered := ordered store reachable
  have listed : store.certificates = [second, first] := by decide +kernel
  have different : second.fingerprint ≠ first.fingerprint := by decide +kernel
  obtain ⟨snapshot, answer, anchors, size⟩ := isOrdered.supplies world ⟨0⟩ ⟨0⟩ true rfl rfl rfl
    (by simp [listed, different, different.symm])
  rw [listed] at anchors
  exact ⟨reachable, listed, isOrdered.knows first (by simp [listed]),
    isOrdered.removes [] second [first] listed, snapshot, answer, anchors, size⟩

end MemoryStore
end TrustPolicy
