import Mathlib.Data.List.DropRight
import Mathlib.Data.List.Forall2
import TrustPolicy.Pin
import TrustPolicy.Proofs.Base64Forms

/-!
# Texts of pins

A text is read as a pin if it is the base64 form of a digest of the right length, blank
characters at its ends apart, and the algorithm is spelled in any case. The form of a pin is
the only text that is read as this pin.
-/

namespace TrustPolicy

/-! ## Blank ends -/

namespace Text

/-- Whether all characters of a text are blank. -/
def IsBlank (text : String) : Prop :=
  ∀ character ∈ text.toList, isBlank character = true

/-- Whether a text is the part of another one between the blank characters at its ends. -/
structure IsCore
    (core text : String) : Prop where
  surrounded : ∃ before after, IsBlank before ∧ IsBlank after ∧ text = before ++ core ++ after
  first : ∀ character, core.toList.head? = some character → isBlank character = false
  last : ∀ character, core.toList.getLast? = some character → isBlank character = false

section Trimming

variable
  {core text : String}
  {characters blanks : List Char}

/-- Nothing is dropped before a character that is not blank. -/
theorem dropWhile_isBlank
    (first : ∀ character, characters.head? = some character → isBlank character = false) :
    characters.dropWhile isBlank = characters := by
  cases characters with
  | nil => rfl
  | cons character rest =>
      exact List.dropWhile_cons_of_neg (Bool.eq_false_iff.1 (first character rfl))

/-- Blank characters at the end are dropped, and no other ones. -/
theorem trimEnd_append
    (last : ∀ character, characters.getLast? = some character → isBlank character = false)
    (blank : ∀ character ∈ blanks, isBlank character = true) :
    trimEnd (characters ++ blanks) = characters := by
  have blankReversed : ∀ character ∈ blanks.reverse, isBlank character = true :=
    fun character present => blank character (List.mem_reverse.1 present)
  have firstReversed : ∀ character, characters.reverse.head? = some character →
      isBlank character = false := by
    rwa [List.head?_reverse]
  rw [trimEnd, List.reverse_append, List.dropWhile_append_of_pos blankReversed,
    dropWhile_isBlank firstReversed, List.reverse_reverse]

theorem IsCore.eq_trim
    (isCore : IsCore core text) :
    core = trim text := by
  obtain ⟨before, after, blankBefore, blankAfter, rfl⟩ := isCore.surrounded
  rw [← String.toList_inj, toList_trim, String.toList_append, String.toList_append,
    List.append_assoc, List.dropWhile_append_of_pos blankBefore]
  cases characters : core.toList with
  | nil =>
      -- Nothing is left between the ends, so the first pass drops both of them.
      rw [List.nil_append, List.dropWhile_eq_nil_iff.2 blankAfter]
      rfl
  | cons character rest =>
      have first := isCore.first
      have last := isCore.last
      rw [characters] at first last
      rw [dropWhile_isBlank (by simpa using first), trimEnd_append last blankAfter]

/-- What remains after blank characters starts with one that is not blank. -/
theorem isBlank_of_head?_dropWhile
    (characters : List Char)
    {character : Char}
    (head : (characters.dropWhile isBlank).head? = some character) :
    isBlank character = false := by
  have notBlank := List.head?_dropWhile_not isBlank characters
  rw [head] at notBlank
  exact notBlank

/-- What is trimmed is the part between the blank ends. -/
theorem isCore_trim
    (text : String) :
    IsCore (trim text) text where
  surrounded := by
    let rest := text.toList.dropWhile isBlank
    refine ⟨String.ofList (text.toList.takeWhile isBlank),
      String.ofList (rest.rtakeWhile isBlank), ?_, ?_, ?_⟩
    · intro character present
      rw [String.toList_ofList] at present
      exact List.mem_takeWhile_imp present
    · intro character present
      rw [String.toList_ofList] at present
      exact List.mem_rtakeWhile_imp present
    · have parted : trimEnd rest ++ rest.rtakeWhile isBlank = rest :=
        List.rdropWhile_append_rtakeWhile ..
      rw [← String.toList_inj, String.toList_append, String.toList_append, String.toList_ofList,
        String.toList_ofList, toList_trim, List.append_assoc, parted,
        List.takeWhile_append_dropWhile]
  first character head := by
    rw [toList_trim] at head
    obtain ⟨dropped, parted⟩ : trimEnd (text.toList.dropWhile isBlank) <+:
      text.toList.dropWhile isBlank := List.rdropWhile_prefix ..
    refine isBlank_of_head?_dropWhile text.toList ?_
    rw [← parted, List.head?_append, head]
    rfl
  last character final := by
    rw [toList_trim, trimEnd, List.getLast?_reverse] at final
    exact isBlank_of_head?_dropWhile _ final

end Trimming

end Text

/-! ## Spellings -/

namespace DigestAlgorithm

/-- Whether two characters are the same, or a capital ASCII letter and its small one. -/
def IsSameLetter (first second : Char) : Prop :=
  first = second ∨ (first.isUpper = true ∧ first.toNat + 32 = second.toNat) ∨
    (second.isUpper = true ∧ second.toNat + 32 = first.toNat)

/-- Whether two texts are equal up to the case of ASCII letters. -/
def IsSpelling (text name : String) : Prop :=
  List.Forall₂ IsSameLetter text.toList name.toList

section Spelling

variable
  {first second : Char}
  {text name : String}

theorem toNat_toUpper
    (character : Char) :
    character.toUpper.toNat =
      if 97 ≤ character.toNat ∧ character.toNat ≤ 122 then character.toNat - 32
      else character.toNat := by
  unfold Char.toUpper
  split
  case isTrue small =>
    have range : 97 ≤ character.toNat ∧ character.toNat ≤ 122 := small
    -- The difference of the two letters is negative, so it wraps around.
    have sum : (character.val + ('A'.val - 'a'.val)).toNat =
        (character.toNat + 4294967264) % 4294967296 :=
      UInt32.toNat_add ..
    rw [if_pos range]
    refine Eq.trans sum ?_
    omega
  case isFalse other => exact (if_neg other).symm

theorem toUpper_eq_iff : first.toUpper = second.toUpper ↔ IsSameLetter first second := by
  have isUpper_iff (character : Char) :
      character.isUpper = true ↔ 65 ≤ character.toNat ∧ character.toNat ≤ 90 :=
    decide_eq_true_iff
  rw [← Char.toNat_inj, toNat_toUpper, toNat_toUpper, IsSameLetter, ← Char.toNat_inj,
    isUpper_iff, isUpper_iff]
  split <;> split <;> omega

/-- Texts are compared letter by letter. -/
theorem sameUpToCase_iff : sameUpToCase text name = true ↔ IsSpelling text name := by
  rw [sameUpToCase, beq_iff_eq, ← List.forall₂_eq_eq_eq, List.forall₂_map_left_iff,
    List.forall₂_map_right_iff]
  simp only [toUpper_eq_iff, IsSpelling]

/-- A text names SHA-256 if it spells it. -/
theorem ofName?_eq_some_iff : ofName? text = some .sha256 ↔ IsSpelling text "SHA-256" := by
  rw [ofName?, ← sameUpToCase_iff]
  exact ite_eq_left_iff.trans (by simp [name])

end Spelling

end DigestAlgorithm

/-! ## Pins -/

namespace Base64

/-- No character of a form is blank. -/
theorem isBlank_of_mem_encode
    {bytes : List UInt8}
    {character : Char}
    (present : character ∈ (encode bytes).toList) :
    Text.isBlank character = false := by
  have letters : ∀ value : Sextet, Text.isBlank (alphabet.getD value.val 'A') = false := by
    decide +kernel
  rw [toList_encode, List.mem_append, List.mem_map] at present
  rcases present with ⟨value, -, rfl⟩ | padding
  · exact letters value
  · rw [List.eq_of_mem_replicate padding]
    decide

end Base64

namespace Pin

section Reading

open DigestAlgorithm (IsSpelling)

variable
  {name text : String}
  {digest : List UInt8}
  {pin : Pin}

theorem ofDigest_of_spelling
    (spelled : IsSpelling name "SHA-256")
    (length : digest.length = 32) :
    ofDigest name digest = .ok (sha256 digest length) := by
  rw [ofDigest, DigestAlgorithm.ofName?_eq_some_iff.2 spelled]
  exact dif_pos length

theorem ofDigest_of_wrong_length
    (spelled : IsSpelling name "SHA-256")
    (length : digest.length ≠ 32) :
    ofDigest name digest = .error (.wrongLength .sha256 digest.length) := by
  rw [ofDigest, DigestAlgorithm.ofName?_eq_some_iff.2 spelled]
  exact dif_neg length

theorem ofDigest_of_not_spelling
    (misspelled : ¬IsSpelling name "SHA-256") :
    ofDigest name digest = .error (.unsupportedAlgorithm name) := by
  have unnamed : DigestAlgorithm.ofName? name = none := by
    cases named : DigestAlgorithm.ofName? name with
    | none => rfl
    | some algorithm =>
        cases algorithm
        exact absurd (DigestAlgorithm.ofName?_eq_some_iff.1 named) misspelled
  rw [ofDigest, unnamed]

/-- A pin is made of a digest if the name spells the algorithm and the length is right. -/
theorem ofDigest_eq_ok_iff :
    ofDigest name digest = .ok pin ↔
      IsSpelling name "SHA-256" ∧ digest.length = 32 ∧ pin.digest = digest := by
  by_cases spelled : IsSpelling name "SHA-256"
  case neg => simp [ofDigest_of_not_spelling spelled, spelled]
  by_cases length : digest.length = 32
  case neg => simp [ofDigest_of_wrong_length spelled length, length]
  rw [ofDigest_of_spelling spelled length]
  constructor
  · intro made
    obtain rfl := Except.ok.inj made
    exact ⟨spelled, length, rfl⟩
  · rintro ⟨-, -, rfl⟩
    exact congrArg Except.ok (ext_digest rfl)

/-- A form is read as its digest. -/
theorem ofBase64_of_isForm
    (form : Base64.IsForm (Text.trim text) digest) :
    ofBase64 name text = ofDigest name digest := by
  rw [ofBase64, Base64.decode_eq_ok_iff_isForm.2 form]

/-- What is no form is refused for one cause, whatever the algorithm. -/
theorem ofBase64_of_no_form
    (formless : ∀ digest, ¬Base64.IsForm (Text.trim text) digest) :
    ∃ cause, ∀ name, ofBase64 name text = .error (.undecodable cause) := by
  cases decoded : Base64.decode (Text.trim text).toUTF8.data.toList with
  | error cause => exact ⟨cause, fun name => by rw [ofBase64, decoded]⟩
  | ok digest => exact absurd (Base64.decode_eq_ok_iff_isForm.1 decoded) (formless digest)

/-- A text is read as a pin if it is the form of its digest and the algorithm is spelled. -/
theorem ofBase64_eq_ok_iff :
    ofBase64 name text = .ok pin ↔
      IsSpelling name "SHA-256" ∧ Base64.IsForm (Text.trim text) pin.digest := by
  constructor
  · intro made
    by_cases formed : ∃ digest, Base64.IsForm (Text.trim text) digest
    · obtain ⟨digest, form⟩ := formed
      rw [ofBase64_of_isForm form] at made
      obtain ⟨spelled, -, rfl⟩ := ofDigest_eq_ok_iff.1 made
      exact ⟨spelled, form⟩
    · obtain ⟨cause, refused⟩ := ofBase64_of_no_form (not_exists.1 formed)
      exact absurd (made.symm.trans (refused name)) (by simp)
  · rintro ⟨spelled, form⟩
    rw [ofBase64_of_isForm form]
    exact ofDigest_eq_ok_iff.2 ⟨spelled, pin.digest_length, rfl⟩

/-- A pin is read from its own form, whatever blank characters surround it. -/
theorem ofBase64_toBase64
    {before after : String}
    (spelled : IsSpelling name "SHA-256")
    (blankBefore : Text.IsBlank before)
    (blankAfter : Text.IsBlank after) :
    ofBase64 name (before ++ pin.toBase64 ++ after) = .ok pin := by
  have isCore : Text.IsCore pin.toBase64 (before ++ pin.toBase64 ++ after) := {
    surrounded := ⟨before, after, blankBefore, blankAfter, rfl⟩
    first := fun character head => Base64.isBlank_of_mem_encode (List.mem_of_mem_head? head)
    last := fun character final => Base64.isBlank_of_mem_encode (List.mem_of_getLast? final) }
  refine ofBase64_eq_ok_iff.2 ⟨spelled, Base64.isForm_iff.2 ?_⟩
  exact isCore.eq_trim.symm

end Reading

/-- What a text is read as, under any name of an algorithm. -/
structure ReadsText (text : String) : Prop where
  /-- What counts is the part between the blank ends. -/
  core : ∀ part, Text.IsCore part text ↔ part = Text.trim text
  /-- A pin is read if the name spells SHA-256 in any case and the trimmed text is the base64
  form of 32 bytes. -/
  accepts : ∀ name, (∃ pin, ofBase64 name text = .ok pin) ↔
    DigestAlgorithm.IsSpelling name "SHA-256" ∧
      ∃ digest, digest.length = 32 ∧ Base64.IsForm (Text.trim text) digest
  /-- It is the pin of these bytes, under the canonical name, and its form is the trimmed text. -/
  made : ∀ name digest pin, Base64.IsForm (Text.trim text) digest →
    ofBase64 name text = .ok pin →
    pin.algorithm.name = "SHA-256" ∧ pin.digest = digest ∧ ofDigest name digest = .ok pin ∧
      (∃ length, pin = sha256 digest length) ∧ pin.toBase64 = Text.trim text
  /-- A text that is no form is refused as such, whatever the algorithm. -/
  undecodable : (∀ digest, ¬Base64.IsForm (Text.trim text) digest) →
    ∃ cause, ∀ name, (ofBase64 name text).mapError PinError.toPolicyError =
      .error (.invalidPin ("digest is not valid base64: " ++ cause))
  /-- A form under the name of another algorithm is refused for that, whatever its length. -/
  unsupported : ∀ name digest, Base64.IsForm (Text.trim text) digest →
    ¬DigestAlgorithm.IsSpelling name "SHA-256" →
    (ofBase64 name text).mapError PinError.toPolicyError =
      .error (.invalidPin ("unsupported digest algorithm: " ++ name))
  /-- A form of another number of bytes is refused with this number. -/
  wrongLength : ∀ name digest, Base64.IsForm (Text.trim text) digest →
    DigestAlgorithm.IsSpelling name "SHA-256" → digest.length ≠ 32 →
    (ofBase64 name text).mapError PinError.toPolicyError =
      .error (.invalidPin s!"SHA-256 digest must be 32 bytes, got {digest.length}")

theorem readsText
    (text : String) :
    ReadsText text where
  core part := by
    refine ⟨Text.IsCore.eq_trim, ?_⟩
    rintro rfl
    exact Text.isCore_trim text
  accepts name := by
    simp only [ofBase64_eq_ok_iff]
    constructor
    · rintro ⟨pin, spelled, form⟩
      exact ⟨spelled, pin.digest, pin.digest_length, form⟩
    · rintro ⟨spelled, digest, length, form⟩
      exact ⟨sha256 digest length, spelled, form⟩
  made name digest pin form made := by
    obtain ⟨-, ownForm⟩ := ofBase64_eq_ok_iff.1 made
    obtain rfl := form.unique ownForm
    rw [ofBase64_of_isForm form] at made
    exact ⟨rfl, rfl, made, ⟨pin.digest_length, rfl⟩, (Base64.isForm_iff.1 form).symm⟩
  undecodable formless := by
    obtain ⟨cause, refused⟩ := ofBase64_of_no_form formless
    refine ⟨cause.message, fun name => ?_⟩
    rw [refused name]
    rfl
  unsupported name digest form misspelled := by
    rw [ofBase64_of_isForm form, ofDigest_of_not_spelling misspelled]
    rfl
  wrongLength name digest form spelled length := by
    rw [ofBase64_of_isForm form, ofDigest_of_wrong_length spelled length]
    rfl

/-- Exactly the base64 forms of digests are read as pins. Each pin is read from its form under
every spelling of the algorithm and between any blank characters, and from no other text. -/
theorem texts_are_canonical :
    (∀ text, ReadsText text) ∧
    (∀ (pin : Pin) (name before after : String),
      DigestAlgorithm.IsSpelling name "SHA-256" → Text.IsBlank before → Text.IsBlank after →
      ofBase64 name (before ++ pin.toBase64 ++ after) = .ok pin) ∧
    ∀ pin name text other others, ofBase64 name text = .ok pin →
      ofBase64 other others = .ok pin → Text.trim text = Text.trim others := by
  refine ⟨readsText, fun pin name before after => ofBase64_toBase64, ?_⟩
  intro pin name text other others made again
  obtain ⟨-, form⟩ := ofBase64_eq_ok_iff.1 made
  obtain ⟨-, otherForm⟩ := ofBase64_eq_ok_iff.1 again
  exact (Base64.isForm_iff.1 form).trans (Base64.isForm_iff.1 otherForm).symm

/-- A pin is read from its form between blank characters. A form of one byte is too short, and
is refused as of another algorithm under another name. A text whose last symbol has an unused
bit set is no form. -/
theorem texts_are_canonical_of_one_byte :
    ofBase64 "sHa-256" ("\u00a0 " ++ (repeated 7).toBase64 ++ "\n") = .ok (repeated 7) ∧
      (ofBase64 "sha-256" " Bw==").mapError PinError.toPolicyError =
        .error (.invalidPin "SHA-256 digest must be 32 bytes, got 1") ∧
      (ofBase64 "SHA256" " Bw==").mapError PinError.toPolicyError =
        .error (.invalidPin "unsupported digest algorithm: SHA256") ∧
      ∃ cause, (ofBase64 "SHA256" "Bx==").mapError PinError.toPolicyError =
        .error (.invalidPin ("digest is not valid base64: " ++ cause)) := by
  obtain ⟨reads, inverts, -⟩ := texts_are_canonical
  have spelled {name : String} (same : DigestAlgorithm.sameUpToCase name "SHA-256" = true) :
      DigestAlgorithm.IsSpelling name "SHA-256" :=
    DigestAlgorithm.sameUpToCase_iff.1 same
  have misspelled : ¬DigestAlgorithm.IsSpelling "SHA256" "SHA-256" := by
    rw [← DigestAlgorithm.sameUpToCase_iff]
    decide +kernel
  have form : Base64.IsForm (Text.trim " Bw==") [7] :=
    Base64.isForm_iff.2 (by decide +kernel)
  have formless : ∀ digest, ¬Base64.IsForm (Text.trim "Bx==") digest := by
    intro digest formed
    have refused : Base64.decode (Text.trim "Bx==").toUTF8.data.toList =
        .error (.invalidLastSymbol 120 1) := by
      decide +kernel
    exact absurd ((Base64.decode_eq_ok_iff_isForm.2 formed).symm.trans refused) (by simp)
  have blankBefore : Text.IsBlank "\u00a0 " := List.all_eq_true.1 (by decide +kernel)
  have blankAfter : Text.IsBlank "\n" := List.all_eq_true.1 (by decide +kernel)
  refine ⟨inverts _ _ _ _ (spelled (by decide +kernel)) blankBefore blankAfter, ?_, ?_, ?_⟩
  · exact (reads _).wrongLength _ [7] form (spelled (by decide +kernel)) (by decide)
  · exact (reads _).unsupported _ [7] form misspelled
  · obtain ⟨cause, refused⟩ := (reads _).undecodable formless
    exact ⟨cause, refused _⟩

end Pin

end TrustPolicy
