import Mathlib.Data.Finset.Card
import Mathlib.Data.List.Sort
import Mathlib.Data.Ordering.Basic
import TrustPolicy.PinForm
import TrustPolicy.Proofs.PinTexts

/-!
# Canonical pins

A pin stands for its digest: pins are equal, and come one before the other, as their digests
do. So a pin set has one representation, which forgets in what order and how often the pins
were given.
-/

namespace TrustPolicy

/-! ## The order of digests -/

/-- Whether a list of bytes comes before another one: after a common part, it goes on with a
smaller byte. -/
def Precedes (first second : List UInt8) : Prop :=
  ∃ common byte rest other others,
    first = common ++ byte :: rest ∧ second = common ++ other :: others ∧
      byte.toNat < other.toNat

/-- For lists of one length this is the lexicographic order. -/
theorem lt_iff_precedes
    {first second : List UInt8}
    (sameLength : first.length = second.length) :
    first < second ↔ Precedes first second := by
  induction first generalizing second with
  | nil =>
      obtain rfl := List.length_eq_zero_iff.1 sameLength.symm
      constructor
      · exact fun less => absurd less (List.lt_irrefl [])
      · rintro ⟨common, byte, rest, other, others, empty, -⟩
        exact absurd empty (by simp)
  | cons byte rest inductionHypothesis =>
      obtain ⟨other, others, rfl⟩ := List.exists_cons_of_length_eq_add_one sameLength.symm
      rw [List.cons_lt_cons_iff, inductionHypothesis (Nat.succ.inj sameLength)]
      constructor
      · rintro (less | ⟨rfl, common, low, lows, high, highs, rfl, rfl, less⟩)
        · exact ⟨[], byte, rest, other, others, rfl, rfl, less⟩
        · exact ⟨byte :: common, low, lows, high, highs, rfl, rfl, less⟩
      · rintro ⟨common, low, lows, high, highs, parted, otherParted, less⟩
        cases common with
        | nil =>
            obtain ⟨rfl, -⟩ := List.cons.inj parted
            obtain ⟨rfl, -⟩ := List.cons.inj otherParted
            exact .inl less
        | cons head common =>
            obtain ⟨rfl, below⟩ := List.cons.inj parted
            obtain ⟨rfl, otherBelow⟩ := List.cons.inj otherParted
            exact .inr ⟨rfl, common, low, lows, high, highs, below, otherBelow, less⟩

namespace Pin

section Order

variable
  {pin other : Pin}

theorem eq_iff_digest_eq : pin = other ↔ pin.digest = other.digest :=
  ⟨congrArg digest, ext_digest⟩

theorem length_digest_eq : pin.digest.length = other.digest.length := by
  obtain ⟨⟨⟩, _, length⟩ := pin
  obtain ⟨⟨⟩, _, otherLength⟩ := other
  exact length.trans otherLength.symm

theorem lt_iff_precedes_digest : pin < other ↔ Precedes pin.digest other.digest :=
  lt_iff.trans (lt_iff_precedes length_digest_eq)

theorem lt_irrefl (pin : Pin) : ¬pin < pin :=
  fun less => List.lt_irrefl pin.digest (lt_iff.1 less)

theorem lt_asymm (less : pin < other) : ¬other < pin :=
  fun greater => lt_irrefl pin (lt_trans less greater)

theorem lt_or_eq_or_lt (pin other : Pin) :
    pin < other ∨ pin = other ∨ other < pin := by
  by_cases less : pin < other
  · exact .inl less
  · by_cases same : pin = other
    · exact .inr (.inl same)
    · exact .inr (.inr (lt_of_not_lt less same))

instance : Std.Asymm (LT.lt : Pin → Pin → Prop) where
  asymm _ _ := lt_asymm

theorem compare_of_lt (less : pin < other) : compare pin other = .lt :=
  if_pos less

theorem compare_self (pin : Pin) : compare pin pin = .eq :=
  (if_neg (lt_irrefl pin)).trans (if_pos rfl)

theorem compare_of_gt (greater : other < pin) : compare pin other = .gt := by
  have different : pin ≠ other := by
    rintro rfl
    exact lt_irrefl pin greater
  exact (if_neg (lt_asymm greater)).trans (if_neg different)

/-- A comparison tells which of the three cases holds. -/
theorem compare_eq_iff
    (outcome : Ordering) :
    compare pin other = outcome ↔ outcome.Compares pin other := by
  constructor
  · rintro rfl
    rcases lt_or_eq_or_lt pin other with less | rfl | greater
    · rw [compare_of_lt less]
      exact less
    · rw [compare_self]
      exact rfl
    · rw [compare_of_gt greater]
      exact greater
  · intro holds
    cases outcome with
    | lt => exact compare_of_lt holds
    | eq => exact holds ▸ compare_self pin
    | gt => exact compare_of_gt holds

end Order

/-- What pins are, whichever way they are made. -/
structure StandForDigests : Prop where
  /-- Each way to give a pin makes one with the canonical name and a digest of 32 bytes. -/
  made : ∀ (form : PinForm) pin, form.make = .ok pin →
    pin.algorithm.name = "SHA-256" ∧ pin.digest.length = 32
  /-- Bytes make the pin of just these bytes, if there are 32 and the name spells SHA-256 in any
  case. -/
  plain : ∀ name digest pin, ofDigest name digest = .ok pin ↔
    DigestAlgorithm.IsSpelling name "SHA-256" ∧ digest.length = 32 ∧ pin.digest = digest
  /-- A text makes the pin of the bytes whose base64 form it is. -/
  base64 : ∀ name text pin, ofBase64 name text = .ok pin ↔
    DigestAlgorithm.IsSpelling name "SHA-256" ∧ Base64.IsForm (Text.trim text) pin.digest
  /-- Any 32 bytes are the digest of one pin, which is the SHA-256 pin of them. -/
  unique : ∀ digest length pin, pin.digest = digest ↔ pin = sha256 digest length
  equal : ∀ pin other : Pin, pin = other ↔ pin.digest = other.digest
  hashed : ∀ pin other : Pin, pin.digest = other.digest → hash pin = hash other
  /-- Pins are ordered by the first byte at which their digests differ. -/
  ordered : ∀ pin other : Pin, pin < other ↔ Precedes pin.digest other.digest
  /-- A comparison has the outcome of the one of the three cases that holds. -/
  compared : ∀ (pin other : Pin) outcome,
    compare pin other = outcome ↔ outcome.Compares pin other
  total : ∀ pin other : Pin, pin < other ∨ pin = other ∨ other < pin
  asymmetric : ∀ pin other : Pin, pin < other → ¬other < pin
  transitive : ∀ pin other third : Pin, pin < other → other < third → pin < third

theorem standForDigests : StandForDigests where
  made _ pin _ := ⟨rfl, pin.digest_length⟩
  plain _ _ _ := ofDigest_eq_ok_iff
  base64 _ _ _ := ofBase64_eq_ok_iff
  unique _ _ _ := by
    rw [eq_iff_digest_eq]
    exact Iff.rfl
  equal _ _ := eq_iff_digest_eq
  hashed _ _ sameDigest := congrArg hash (ext_digest sameDigest)
  ordered _ _ := lt_iff_precedes_digest
  compared _ _ := compare_eq_iff
  total := lt_or_eq_or_lt
  asymmetric _ _ := lt_asymm
  transitive _ _ _ := lt_trans

end Pin

namespace PinSet

section Sets

variable
  {pins others : List Pin}
  {pin : Pin}
  {expiration otherExpiration : Option Instant}

theorem mem_ofList : pin ∈ (ofList pins expiration).pins ↔ pin ∈ pins :=
  Pin.mem_ascending

theorem contains_ofList : (ofList pins expiration).contains pin = true ↔ pin ∈ pins :=
  List.contains_iff_mem.trans mem_ofList

/-- A set has no pins if and only if it was given none. -/
theorem pins_ofList_eq_nil_iff : (ofList pins expiration).pins = [] ↔ pins = [] := by
  simp only [List.eq_nil_iff_forall_not_mem, mem_ofList]

theorem size_ofList : (ofList pins expiration).size = pins.toFinset.card := by
  have distinct : (ofList pins expiration).pins.Nodup :=
    (ofList pins expiration).pins_ascending.nodup
  have sameMembers : (ofList pins expiration).pins.toFinset = pins.toFinset := by
    ext member
    rw [List.mem_toFinset, List.mem_toFinset, mem_ofList]
  rw [← sameMembers, List.toFinset_card_of_nodup distinct, size]

theorem ofList_eq_iff :
    ofList pins expiration = ofList others otherExpiration ↔
      (∀ pin, pin ∈ pins ↔ pin ∈ others) ∧ expiration = otherExpiration := by
  constructor
  · intro same
    refine ⟨fun pin => ?_, congrArg PinSet.expiration same⟩
    calc pin ∈ pins
        ↔ pin ∈ (ofList pins expiration).pins := mem_ofList.symm
      _ ↔ pin ∈ (ofList others otherExpiration).pins := by rw [same]
      _ ↔ pin ∈ others := mem_ofList
  · rintro ⟨sameMembers, rfl⟩
    -- Strictly ascending lists with the same members are the same.
    have samePins : Pin.ascending pins = Pin.ascending others := by
      refine (Pin.pairwise_ascending pins).eq_of_mem_iff (Pin.pairwise_ascending others) ?_
      intro pin
      rw [Pin.mem_ascending, Pin.mem_ascending, sameMembers]
    simp only [ofList, samePins]

/-- All pins have the one algorithm that there is. -/
theorem algorithms_of_pins_ne_nil
    {set : PinSet}
    (nonempty : set.pins ≠ []) :
    set.algorithms = [.sha256] := by
  obtain ⟨⟨algorithm⟩, rest, split⟩ := List.exists_cons_of_ne_nil nonempty
  have noOther :
      (rest.map Pin.algorithm).filter (fun algorithm => !algorithm == .sha256) = [] := by
    rw [List.filter_eq_nil_iff]
    rintro ⟨⟩ -
    decide
  cases algorithm
  rw [algorithms, split, List.map_cons, List.eraseDups_cons, noOther]
  rfl

theorem algorithms_ofList :
    (ofList pins expiration).algorithms.map DigestAlgorithm.name =
      if pins = [] then [] else ["SHA-256"] := by
  split
  case isTrue empty =>
      subst empty
      rfl
  case isFalse given =>
      rw [algorithms_of_pins_ne_nil (mt pins_ofList_eq_nil_iff.1 given)]
      rfl

theorem isExpiredAt_iff
    {set : PinSet}
    {now : Instant} :
    set.isExpiredAt now = true ↔
      ∃ instant, set.expiration = some instant ∧ instant.sinceEpoch ≤ now.sinceEpoch := by
  rw [isExpiredAt]
  cases set.expiration with
  | none => simp
  | some instant => simp [Instant.le_iff_sinceEpoch_le]

end Sets

/-- What the pin set of a list of pins is. -/
structure IsCanonical
    (pins : List Pin)
    (expiration : Option Instant) : Prop where
  /-- The pins are given out in strictly ascending order. -/
  ascending : (ofList pins expiration).pins.Pairwise (· < ·)
  members : ∀ pin, pin ∈ (ofList pins expiration).pins ↔ pin ∈ pins
  contains : ∀ pin, (ofList pins expiration).contains pin = true ↔ pin ∈ pins
  /-- Pins that were given several times count once. -/
  size : (ofList pins expiration).size = pins.toFinset.card
  isEmpty : (ofList pins expiration).isEmpty = true ↔ pins = []
  /-- The sets of two lists are equal if and only if the lists have the same members, in
  whatever order and number, and the expirations are equal. -/
  equal : ∀ others otherExpiration,
    ofList pins expiration = ofList others otherExpiration ↔
      (∀ pin, pin ∈ pins ↔ pin ∈ others) ∧ expiration = otherExpiration
  algorithms : (ofList pins expiration).algorithms.map DigestAlgorithm.name =
    if pins = [] then [] else ["SHA-256"]
  /-- The set is expired from its expiration on, and never without one. -/
  expires : ∀ now, (ofList pins expiration).isExpiredAt now = true ↔
    ∃ instant, expiration = some instant ∧ instant.sinceEpoch ≤ now.sinceEpoch
  /-- What is expired stays expired. -/
  staysExpired : ∀ now later, now.sinceEpoch ≤ later.sinceEpoch →
    (ofList pins expiration).isExpiredAt now = true →
      (ofList pins expiration).isExpiredAt later = true

theorem isCanonical
    (pins : List Pin)
    (expiration : Option Instant) :
    IsCanonical pins expiration where
  ascending := (ofList pins expiration).pins_ascending
  members _ := mem_ofList
  contains _ := contains_ofList
  size := size_ofList
  isEmpty := List.isEmpty_iff.trans pins_ofList_eq_nil_iff
  equal _ _ := ofList_eq_iff
  algorithms := algorithms_ofList
  expires _ := isExpiredAt_iff
  staysExpired now later ordered expired := by
    obtain ⟨instant, expires, reached⟩ := isExpiredAt_iff.1 expired
    exact isExpiredAt_iff.2 ⟨instant, expires, Int.le_trans reached ordered⟩

/-- Pins stand for their digests, and pin sets for the members that they were given. -/
theorem canonicalPins :
    Pin.StandForDigests ∧ ∀ pins expiration, IsCanonical pins expiration :=
  ⟨Pin.standForDigests, isCanonical⟩

/-- Two pins are made under unlike spellings, and come in the order of their bytes as unsigned
numbers. A set of them does not show which of them was given twice, and expires before the
epoch. -/
theorem canonicalPins_of_two_bytes :
    let low := Pin.repeated 0x7F
    let high := Pin.repeated 0x80
    let expiration : Instant := ⟨-1, 5⟩
    let set := ofList [high, low, high] (some expiration)
    Pin.ofDigest "sha-256" low.digest = .ok low ∧
      Pin.ofBase64 "Sha-256" high.toBase64 = .ok high ∧
      compare low high = .lt ∧
      set = ofList [low, high] (some expiration) ∧
      set.size = 2 ∧
      set.algorithms.map DigestAlgorithm.name = ["SHA-256"] ∧
      set.isExpiredAt ⟨-1, 4⟩ = false ∧
      set.isExpiredAt ⟨0, 0⟩ = true := by
  intro low high expiration set
  obtain ⟨pins, sets⟩ := canonicalPins
  have spelled {name : String} (same : DigestAlgorithm.sameUpToCase name "SHA-256" = true) :
      DigestAlgorithm.IsSpelling name "SHA-256" :=
    DigestAlgorithm.sameUpToCase_iff.1 same
  have form : Base64.IsForm (Text.trim high.toBase64) high.digest :=
    Base64.isForm_iff.2 (by decide +kernel)
  have before : Precedes low.digest high.digest :=
    ⟨[], 0x7F, _, 0x80, _, rfl, rfl, by decide⟩
  have isCanonical := sets [high, low, high] (some expiration)
  refine ⟨?_, ?_, ?_, ?_, ?_, isCanonical.algorithms, ?_, ?_⟩
  · exact (pins.plain _ _ _).2 ⟨spelled (by decide +kernel), rfl, rfl⟩
  · exact (pins.base64 _ _ _).2 ⟨spelled (by decide +kernel), form⟩
  · exact (pins.compared low high .lt).2 ((pins.ordered low high).2 before)
  · refine (isCanonical.equal _ _).2 ⟨fun pin => ?_, rfl⟩
    simp only [List.mem_cons, List.not_mem_nil, or_false]
    tauto
  · exact isCanonical.size.trans (by decide +kernel)
  · rw [← Bool.not_eq_true, isCanonical.expires]
    rintro ⟨instant, expires, reached⟩
    obtain rfl := Option.some.inj expires
    exact absurd reached (by decide)
  · exact (isCanonical.expires _).2 ⟨expiration, rfl, by decide⟩

end PinSet
end TrustPolicy
