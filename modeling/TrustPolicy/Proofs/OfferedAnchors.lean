import TrustPolicy.Proofs.Aggregation

/-!
# Offered anchors

A set is filled with single anchors and with lists of anchors, or made anew from a list.
Whichever way it was filled, it is the set of the anchors that were offered to it in order:
it holds the first one of each fingerprint, and one record for each of them.
-/

namespace TrustPolicy
namespace AnchorSet

/-- Whether a set comes from the empty one by offering it anchors in order. -/
inductive Offered : AnchorSet → List Anchor → Prop
  | empty : Offered AnchorSet.empty []
  | insert
      {set : AnchorSet}
      {offered : List Anchor}
      (before : Offered set offered)
      (anchor : Anchor) :
      Offered (set.insert anchor) (offered ++ [anchor])
  | extend
      {set : AnchorSet}
      {offered : List Anchor}
      (before : Offered set offered)
      (anchors : List Anchor) :
      Offered (set.extend anchors) (offered ++ anchors)
  | ofList
      (anchors : List Anchor) :
      Offered (AnchorSet.ofList anchors) anchors

/-- Whether the records of a set are the fingerprints of its anchors with their places. -/
def IsRecorded (set : AnchorSet) : Prop :=
  set.positions =
    set.anchors.zipIdx.map fun entry => (entry.1.certificate.fingerprint, entry.2)

section Records

variable
  {set other : AnchorSet}
  {offered : List Anchor}
  {anchor : Anchor}
  {anchors : List Anchor}

/-- However a set was filled, it is the set of the list of all offered anchors. -/
theorem Offered.eq_ofList
    (filled : Offered set offered) :
    set = AnchorSet.ofList offered := by
  induction filled with
  | empty => rfl
  | insert before anchor inductionHypothesis =>
      rw [inductionHypothesis]
      exact (extend_append AnchorSet.empty _ [anchor]).symm
  | extend before anchors inductionHypothesis =>
      rw [inductionHypothesis]
      exact (extend_append AnchorSet.empty _ anchors).symm
  | ofList anchors => rfl

/-! ## Records -/

/-- A new anchor is recorded at the place where it is put. -/
theorem IsRecorded.insert
    (recorded : set.IsRecorded)
    (anchor : Anchor) :
    (set.insert anchor).IsRecorded := by
  unfold AnchorSet.insert
  split
  case isFalse => exact recorded
  case isTrue =>
    rw [IsRecorded] at recorded
    simp [IsRecorded, recorded, List.zipIdx_append]

theorem IsRecorded.extend
    (recorded : set.IsRecorded)
    (anchors : List Anchor) :
    (set.extend anchors).IsRecorded := by
  induction anchors generalizing set with
  | nil => exact recorded
  | cons anchor anchors inductionHypothesis => exact inductionHypothesis (recorded.insert anchor)

theorem isRecorded_ofList
    (anchors : List Anchor) :
    (AnchorSet.ofList anchors).IsRecorded :=
  IsRecorded.extend (by rfl) anchors

/-- Sets whose records follow from their anchors are equal if their anchors are. -/
theorem IsRecorded.eq_iff
    (recorded : set.IsRecorded)
    (otherRecorded : other.IsRecorded) :
    set = other ↔ set.anchors = other.anchors := by
  constructor
  · rintro rfl
    rfl
  · intro sameAnchors
    obtain ⟨firstAnchors, firstPositions⟩ := set
    obtain ⟨secondAnchors, secondPositions⟩ := other
    simp only [IsRecorded] at recorded otherRecorded sameAnchors
    rw [recorded, otherRecorded, sameAnchors]

/-- A record points at a place that is taken. -/
theorem IsIndexed.lt_length
    {fingerprint : List UInt8}
    {position : Nat}
    (indexed : set.IsIndexed)
    (recorded : set.positions.lookup fingerprint = some position) :
    position < set.anchors.length := by
  obtain ⟨anchor, placed, -⟩ := (indexed fingerprint position).1 recorded
  exact (List.getElem?_eq_some_iff.1 placed).1

/-- No fingerprint is stored twice, since it has one record. -/
theorem IsIndexed.nodup
    (indexed : set.IsIndexed) :
    (set.anchors.map (·.certificate.fingerprint)).Nodup := by
  rw [List.nodup_iff_pairwise_ne, List.pairwise_iff_getElem]
  intro first second firstInside secondInside ordered same
  rw [List.length_map] at firstInside secondInside
  rw [List.getElem_map, List.getElem_map] at same
  have recorded {place : Nat} (inside : place < set.anchors.length) :
      set.positions.lookup set.anchors[place].certificate.fingerprint = some place :=
    (indexed _ _).2 ⟨_, List.getElem?_eq_getElem inside, rfl⟩
  have samePlace : some first = some second := by
    rw [← recorded firstInside, same, recorded secondInside]
  exact absurd (Option.some_inj.1 samePlace) (Nat.ne_of_lt ordered)

/-! ## Insertion -/

/-- An anchor is new if none is recorded for its certificate. -/
theorem IsIndexed.isNew_iff_contains_eq_false
    (indexed : set.IsIndexed) :
    set.isNew anchor = true ↔ set.contains anchor.certificate = false := by
  rw [indexed.isNew_iff_find?_eq_none, contains, Option.isSome_eq_false_iff,
    Option.isNone_iff_eq_none]

theorem insert_of_isNew_eq_false
    (known : set.isNew anchor = false) :
    set.insert anchor = set := by
  rw [AnchorSet.insert, known]
  rfl

/-- After an insertion some anchor is recorded for the certificate, the new one or an earlier
one. -/
theorem IsIndexed.contains_insert
    (indexed : set.IsIndexed) :
    (set.insert anchor).contains anchor.certificate = true := by
  rw [contains, indexed.find?_insert, if_pos rfl]
  cases set.find? anchor.certificate <;> rfl

/-- Anchors whose certificates are all represented change nothing. -/
theorem IsIndexed.extend_eq_self
    (indexed : set.IsIndexed)
    (represented : ∀ anchor ∈ anchors, set.contains anchor.certificate = true) :
    set.extend anchors = set := by
  induction anchors with
  | nil => rfl
  | cons anchor rest inductionHypothesis =>
      have known : set.isNew anchor = false := by
        rw [← Bool.not_eq_true, indexed.isNew_iff_contains_eq_false,
          represented anchor List.mem_cons_self]
        simp
      rw [extend_cons, insert_of_isNew_eq_false known]
      exact inductionHypothesis fun later present =>
        represented later (List.mem_cons_of_mem anchor present)

end Records

/-! ## Sets after offers -/

/-- What a set is after anchors were offered to it, and what it will do with more. -/
structure KeepsFirst
    (set : AnchorSet)
    (offered : List Anchor) : Prop where
  /-- The fingerprint of the anchor at each place is recorded with this place, and the set has
  no other record. -/
  recorded : set.IsRecorded
  /-- So a look-up of a fingerprint gives the place of its anchor. -/
  indexed : set.IsIndexed
  distinct : (set.anchors.map (·.certificate.fingerprint)).Nodup
  /-- No search meets a place outside the anchors. -/
  inside : ∀ (certificate : Certificate) position,
    set.positions.lookup certificate.fingerprint = some position → position < set.anchors.length
  /-- A search finds the first anchor that was offered for the fingerprint, as it was offered. -/
  found : ∀ certificate : Certificate, set.find? certificate =
    offered.find? fun anchor => anchor.certificate.fingerprint = certificate.fingerprint
  /-- It finds nothing exactly if none was offered. -/
  absent : ∀ certificate : Certificate, set.find? certificate = none ↔
    ∀ anchor ∈ offered, anchor.certificate.fingerprint ≠ certificate.fingerprint
  /-- An insertion succeeds exactly if no anchor is recorded for the certificate. -/
  accepts : ∀ anchor, set.isNew anchor = true ↔ set.contains anchor.certificate = false
  /-- After it one is, whether it succeeded or not. -/
  represents : ∀ anchor, (set.insert anchor).contains anchor.certificate = true
  /-- If it does not succeed it leaves the set as it was. -/
  rejects : ∀ anchor, set.isNew anchor = false → set.insert anchor = set
  /-- A list of anchors may be offered in two parts. -/
  parts : ∀ first second, set.extend (first ++ second) = (set.extend first).extend second
  /-- Anchors that are represented change nothing. -/
  idle : ∀ anchors, (∀ anchor ∈ anchors, set.contains anchor.certificate = true) →
    set.extend anchors = set
  /-- Two sets are equal exactly if their anchors are, which then have the same records. -/
  equal : ∀ other others, Offered other others →
    (set = other ↔ set.anchors = other.anchors) ∧
      (set.anchors = other.anchors →
        ∀ fingerprint, set.positions.lookup fingerprint = other.positions.lookup fingerprint)

/-- Whatever way a set was filled, it keeps the first of the offered anchors for each
fingerprint, and its records are in step with its anchors. -/
theorem Offered.keepsFirst
    {set : AnchorSet}
    {offered : List Anchor}
    (filled : Offered set offered) :
    KeepsFirst set offered := by
  obtain rfl := filled.eq_ofList
  have indexed := isIndexed_ofList offered
  have recorded := isRecorded_ofList offered
  exact {
    recorded
    indexed
    distinct := indexed.nodup
    inside := fun certificate position => indexed.lt_length
    found := fun certificate => find?_ofList offered
    absent := fun certificate => by simp [find?_ofList]
    accepts := fun anchor => indexed.isNew_iff_contains_eq_false
    represents := fun anchor => indexed.contains_insert
    rejects := fun anchor => insert_of_isNew_eq_false
    parts := extend_append _
    idle := fun anchors => indexed.extend_eq_self
    equal := fun other others otherFilled => by
      obtain rfl := otherFilled.eq_ofList
      have equal := recorded.eq_iff (isRecorded_ofList others)
      exact ⟨equal, fun sameAnchors fingerprint => by rw [equal.2 sameAnchors]⟩ }

/-- Two certificates, of which the first is offered again with another flag. The set is the one
of their first offers, and refuses a third offer. -/
theorem keepsFirst_of_repeated_offers :
    let first := World.namelessCertificate
    let second : Certificate := ⟨first.der.set 6 0x02, ⟨[], []⟩, _, by decide, rfl⟩
    let set := (AnchorSet.empty.insert ⟨first, true⟩).extend [⟨second, false⟩, ⟨first, false⟩]
    Offered set [⟨first, true⟩, ⟨second, false⟩, ⟨first, false⟩] ∧
      set.find? first = some ⟨first, true⟩ ∧ set.find? second = some ⟨second, false⟩ ∧
      set.isNew ⟨second, true⟩ = false ∧ set.insert ⟨second, true⟩ = set ∧
      set = AnchorSet.ofList [⟨first, true⟩, ⟨second, false⟩] := by
  intro first second set
  have filled : Offered set [⟨first, true⟩, ⟨second, false⟩, ⟨first, false⟩] :=
    (Offered.empty.insert ⟨first, true⟩).extend [⟨second, false⟩, ⟨first, false⟩]
  have kept := filled.keepsFirst
  have different : first.fingerprint ≠ second.fingerprint := by decide +kernel
  have foundSecond : set.find? second = some ⟨second, false⟩ :=
    (kept.found second).trans (by simp [different])
  have known : set.isNew ⟨second, true⟩ = false := by
    rw [← Bool.not_eq_true, kept.accepts, contains, foundSecond]
    simp
  have sameAnchors : set.anchors = (AnchorSet.ofList [⟨first, true⟩, ⟨second, false⟩]).anchors := by
    rw [filled.eq_ofList, anchors_ofList, anchors_ofList]
    simp [Anchor.firstOccurrences, different, List.filter_cons]
  exact ⟨filled, (kept.found first).trans (by simp), foundSecond, known, kept.rejects _ known,
    (kept.equal _ _ (.ofList _)).1.2 sameAnchors⟩

end AnchorSet
end TrustPolicy
