import TrustPolicy.Base64.Decode

/-!
# Base64 forms

The base64 form of bytes is a matter of bits. The characters stand for groups of six bits,
which put one after another are the bits of the bytes, filled up with fewer than six zeros,
and as little padding as there can be makes the form a multiple of four characters long.
Every byte string has one form. `encode` writes it, and `decode` reads nothing else.
-/

namespace TrustPolicy
namespace Base64

/-! ## Bits -/

/-- The lowest bits of a value, the highest of them first. -/
def bits : Nat → Nat → List Bool
  | 0, _ => []
  | width + 1, value => bits width (value / 2) ++ [value % 2 == 1]

section Bits

variable {width value other : Nat}

@[simp] theorem length_bits : (bits width value).length = width := by
  induction width generalizing value with
  | zero => rfl
  | succ width inductionHypothesis => simp [bits, inductionHypothesis]

theorem length_flatMap_bits
    (read : α → Nat)
    (values : List α) :
    (values.flatMap fun value => bits width (read value)).length = width * values.length := by
  induction values with
  | nil => rfl
  | cons value rest inductionHypothesis =>
      rw [List.flatMap_cons, List.length_append, length_bits, inductionHypothesis,
        List.length_cons, Nat.mul_succ, Nat.add_comm]

/-- The highest bits of a value are those of its quotient. -/
theorem bits_add
    (high low value : Nat) :
    bits (high + low) value = bits high (value / 1 <<< low) ++ bits low value := by
  induction low generalizing value with
  | zero => simp [bits]
  | succ low inductionHypothesis =>
      rw [← Nat.add_assoc, bits, inductionHypothesis, bits, List.append_assoc,
        Nat.div_div_eq_div_mul, Nat.shiftLeft_succ]

/-- The lowest bits of a value are those of its remainder. -/
theorem bits_congr
    (same : value % 1 <<< width = other % 1 <<< width) :
    bits width value = bits width other := by
  induction width generalizing value other with
  | zero => rfl
  | succ width inductionHypothesis =>
      rw [Nat.shiftLeft_succ] at same
      have sameHalves : value / 2 % 1 <<< width = other / 2 % 1 <<< width := by
        rw [← Nat.mod_mul_right_div_self, ← Nat.mod_mul_right_div_self, same]
      have sameParities : value % 2 = other % 2 := by
        rw [← Nat.mod_mul_right_mod value 2 (1 <<< width), same, Nat.mod_mul_right_mod]
      rw [bits, bits, inductionHypothesis sameHalves, sameParities]

/-- A value that fits below another one keeps its bits there. -/
theorem bits_join
    (high low value other : Nat)
    (fits : other < 1 <<< low) :
    bits (high + low) (value * 1 <<< low + other) = bits high value ++ bits low other := by
  have quotient : (value * 1 <<< low + other) / 1 <<< low = value := by
    rw [Nat.mul_comm, Nat.mul_add_div (Nat.zero_lt_of_lt fits), Nat.div_eq_of_lt fits,
      Nat.add_zero]
  have remainder : (value * 1 <<< low + other) % 1 <<< low = other % 1 <<< low :=
    Nat.mul_add_mod' _ _ _
  rw [bits_add, quotient, bits_congr remainder]

/-- A multiple of a power of two ends in zeros. -/
theorem bits_mul
    (high low value : Nat) :
    bits (high + low) (value * 1 <<< low) = bits high value ++ List.replicate low false := by
  have zeros : bits low 0 = List.replicate low false := by
    induction low with
    | zero => rfl
    | succ low inductionHypothesis =>
        rw [bits, Nat.zero_div, inductionHypothesis, List.replicate_succ']
        rfl
  have positive : 0 < 1 <<< low := by
    rw [Nat.one_shiftLeft]
    exact Nat.two_pow_pos low
  have joined := bits_join high low value 0 positive
  rwa [Nat.add_zero, zeros] at joined

/-- Values that fit into a width are equal if their bits are. -/
theorem eq_of_bits_eq
    (fits : value < 1 <<< width)
    (otherFits : other < 1 <<< width)
    (same : bits width value = bits width other) :
    value = other := by
  induction width generalizing value other with
  | zero => exact (Nat.lt_one_iff.1 fits).trans (Nat.lt_one_iff.1 otherFits).symm
  | succ width inductionHypothesis =>
      rw [Nat.shiftLeft_succ] at fits otherFits
      obtain ⟨sameHigh, sameLow⟩ := List.append_inj' same rfl
      have halves : value / 2 = other / 2 :=
        inductionHypothesis (Nat.div_lt_of_lt_mul fits) (Nat.div_lt_of_lt_mul otherFits) sameHigh
      have lastBits : (value % 2 == 1) = (other % 2 == 1) := List.singleton_inj.1 sameLow
      have parities : value % 2 = 1 ↔ other % 2 = 1 := by
        rw [← beq_iff_eq, lastBits, beq_iff_eq]
      omega

end Bits

/-! ## Groups of six bits -/

section Groups

variable
  {bytes : List UInt8}
  {values others : List Sextet}

/-- The bits of groups, one group after another. -/
def groupBits (values : List Sextet) : List Bool :=
  values.flatMap fun value => bits 6 value.val

/-- The bits of bytes, one byte after another. -/
def byteBits (bytes : List UInt8) : List Bool :=
  bytes.flatMap fun byte => bits 8 byte.toNat

theorem length_groupBits : (groupBits values).length = 6 * values.length :=
  length_flatMap_bits Fin.val values

theorem length_byteBits : (byteBits bytes).length = 8 * bytes.length :=
  length_flatMap_bits UInt8.toNat bytes

/-- Groups are told apart by their bits. -/
theorem eq_of_groupBits_eq
    (same : groupBits values = groupBits others) :
    values = others := by
  induction values generalizing others with
  | nil =>
      have empty : 6 * others.length = 0 := by
        rw [← length_groupBits, ← same]
        rfl
      exact (List.length_eq_zero_iff.1 (by omega)).symm
  | cons value rest inductionHypothesis =>
      cases others with
      | nil =>
          have lengths := congrArg List.length same
          rw [length_groupBits, length_groupBits] at lengths
          simp at lengths
      | cons other others =>
          obtain ⟨sameFirst, sameRest⟩ := List.append_inj same (by rw [length_bits, length_bits])
          obtain rfl := Fin.ext (eq_of_bits_eq value.isLt other.isLt sameFirst)
          rw [inductionHypothesis sameRest]

theorem bits_sextet
    (value : Nat) :
    bits 6 (sextet value).val = bits 6 value :=
  bits_congr (Nat.mod_mod _ _)

section Parts

variable (first second third : UInt8)

/-- The first byte of a block is parted after its sixth bit. -/
theorem bits_firstByte :
    bits 8 first.toNat = bits 6 (first.toNat / 4) ++ bits 2 first.toNat :=
  bits_add 6 2 _

theorem bits_secondByte :
    bits 8 second.toNat = bits 4 (second.toNat / 16) ++ bits 4 second.toNat :=
  bits_add 4 4 _

theorem bits_thirdByte :
    bits 8 third.toNat = bits 2 (third.toNat / 64) ++ bits 6 third.toNat :=
  bits_add 2 6 _

/-- The second group of a block takes bits of two bytes, and so does the third one. -/
theorem bits_secondGroup :
    bits 6 (first.toNat * 16 + second.toNat / 16) =
      bits 2 first.toNat ++ bits 4 (second.toNat / 16) :=
  bits_join 2 4 _ _ (Nat.div_lt_of_lt_mul second.toNat_lt)

theorem bits_thirdGroup :
    bits 6 (second.toNat * 4 + third.toNat / 64) =
      bits 4 second.toNat ++ bits 2 (third.toNat / 64) :=
  bits_join 4 2 _ _ (Nat.div_lt_of_lt_mul third.toNat_lt)

/-- A byte by itself fills two groups up to four bits. -/
theorem groupBits_one :
    groupBits (groups [first]) = bits 8 first.toNat ++ List.replicate 4 false := by
  have filled : bits 6 (first.toNat * 16) = bits 2 first.toNat ++ List.replicate 4 false :=
    bits_mul 2 4 _
  simp only [groups, groupBits, List.flatMap_cons, List.flatMap_nil, bits_sextet,
    bits_firstByte first, filled, List.append_assoc, List.append_nil]

/-- Two bytes by themselves fill three groups up to two bits. -/
theorem groupBits_two :
    groupBits (groups [first, second]) =
      bits 8 first.toNat ++ (bits 8 second.toNat ++ List.replicate 2 false) := by
  have filled : bits 6 (second.toNat * 4) = bits 4 second.toNat ++ List.replicate 2 false :=
    bits_mul 4 2 _
  simp only [groups, groupBits, List.flatMap_cons, List.flatMap_nil, bits_sextet,
    bits_firstByte first, bits_secondByte second, bits_secondGroup, filled, List.append_assoc,
    List.append_nil]

/-- Three bytes fill four groups. -/
theorem groupBits_three :
    groupBits (groups (first :: second :: third :: bytes)) =
      bits 8 first.toNat ++ (bits 8 second.toNat ++ (bits 8 third.toNat ++
        groupBits (groups bytes))) := by
  simp only [groups, groupBits, List.flatMap_cons, bits_sextet, bits_firstByte first,
    bits_secondByte second, bits_thirdByte third, bits_secondGroup, bits_thirdGroup,
    List.append_assoc]

end Parts

/-- The number of zeros that fill the groups of a number of bytes. -/
def unused (length : Nat) : Nat :=
  2 * ((3 - length % 3) % 3)

/-- The bits of groups are the bits of the bytes, filled up with zeros. -/
theorem groupBits_groups :
    groupBits (groups bytes) = byteBits bytes ++ List.replicate (unused bytes.length) false := by
  induction bytes using groups.induct with
  | case1 => rfl
  | case2 first => exact groupBits_one first
  | case3 first second => exact (groupBits_two first second).trans (List.append_assoc ..).symm
  | case4 first second third rest inductionHypothesis =>
      have sameUnused : unused (rest.length + 3) = unused rest.length := by
        rw [unused, unused, Nat.add_mod_right]
      rw [groupBits_three, inductionHypothesis, List.length_cons, List.length_cons,
        List.length_cons, sameUnused]
      simp only [byteBits, List.flatMap_cons, List.append_assoc]

theorem length_groups
    (bytes : List UInt8) :
    6 * (groups bytes).length = 8 * bytes.length + unused bytes.length := by
  rw [← length_groupBits, groupBits_groups, List.length_append, length_byteBits,
    List.length_replicate]

/-- Groups that have the bits of bytes up to fewer than six zeros are the groups of these
bytes. -/
theorem eq_groups_of_groupBits
    {zeros : Nat}
    (few : zeros < 6)
    (same : groupBits values = byteBits bytes ++ List.replicate zeros false) :
    values = groups bytes := by
  have lengths := congrArg List.length same
  rw [length_groupBits, List.length_append, length_byteBits, List.length_replicate] at lengths
  have groupsLength := length_groups bytes
  -- Both numbers of zeros are below six, and leave the same remainder.
  obtain rfl : zeros = unused bytes.length := by
    unfold unused at groupsLength ⊢
    omega
  exact eq_of_groupBits_eq (same.trans groupBits_groups.symm)

/-! ## Groups and bytes -/

/-- A number is written as the byte that it has as its remainder. -/
theorem ofNat_eq_of_mod_eq
    {value : Nat}
    {byte : UInt8}
    (same : value % 256 = byte.toNat) :
    UInt8.ofNat value = byte :=
  UInt8.toNat_inj.1 (UInt8.toNat_ofNat'.trans same)

theorem ungroup_groups : ungroup (groups bytes) = bytes := by
  induction bytes using groups.induct with
  | case1 => rfl
  | case2 first =>
      have fits := first.toNat_lt
      simp only [groups, ungroup, sextet, List.cons.injEq, and_true]
      exact ofNat_eq_of_mod_eq (by omega)
  | case3 first second =>
      have fits := first.toNat_lt
      have secondFits := second.toNat_lt
      simp only [groups, ungroup, sextet, List.cons.injEq, and_true]
      exact ⟨ofNat_eq_of_mod_eq (by omega), ofNat_eq_of_mod_eq (by omega)⟩
  | case4 first second third rest inductionHypothesis =>
      have fits := first.toNat_lt
      have secondFits := second.toNat_lt
      have thirdFits := third.toNat_lt
      simp only [groups, ungroup, sextet, List.cons.injEq, inductionHypothesis, and_true]
      exact ⟨ofNat_eq_of_mod_eq (by omega), ofNat_eq_of_mod_eq (by omega),
        ofNat_eq_of_mod_eq (by omega)⟩

/-- The last group of bytes has no unused bits that are set. -/
theorem unusedBits_groups : unusedBits (groups bytes) = 0 := by
  induction bytes using groups.induct with
  | case1 => rfl
  | case2 first =>
      simp only [groups, unusedBits, sextet]
      omega
  | case3 first second =>
      simp only [groups, unusedBits, sextet]
      omega
  | case4 first second third rest inductionHypothesis => exact inductionHypothesis

/-- Groups without unused bits that are set are those of the bytes that they hold. -/
theorem groups_ungroup :
    (values : List Sextet) → unusedBits values = 0 → values.length % 4 ≠ 1 →
      groups (ungroup values) = values
  | [], _, _ => rfl
  | [_], _, whole => absurd rfl whole
  | [first, second], unset, _ => by
      have secondUnset : second.val % 16 = 0 := unset
      simp only [ungroup, groups, UInt8.toNat_ofNat', sextet, List.cons.injEq, Fin.ext_iff,
        and_true]
      omega
  | [first, second, third], unset, _ => by
      have thirdUnset : third.val % 4 = 0 := unset
      simp only [ungroup, groups, UInt8.toNat_ofNat', sextet, List.cons.injEq, Fin.ext_iff,
        and_true]
      omega
  | first :: second :: third :: fourth :: rest, unset, whole => by
      have restWhole : rest.length % 4 ≠ 1 := by
        simp only [List.length_cons] at whole
        omega
      simp only [ungroup, groups, groups_ungroup rest unset restWhole, UInt8.toNat_ofNat', sextet,
        List.cons.injEq, Fin.ext_iff, and_true]
      omega

/-- Blocks of four groups before others have no unused bits. -/
theorem unusedBits_append :
    (values : List Sextet) → values.length % 4 = 0 →
      unusedBits (values ++ others) = unusedBits others
  | [], _ => rfl
  | [_], blocks => absurd blocks (by simp)
  | [_, _], blocks => absurd blocks (by simp)
  | [_, _, _], blocks => absurd blocks (by simp)
  | _ :: _ :: _ :: _ :: rest, blocks =>
      unusedBits_append rest (by simp only [List.length_cons] at blocks; omega)

end Groups

/-! ## Symbols -/

section Symbols

variable
  {byte : UInt8}
  {group : Sextet}
  {values : List Sextet}
  {written bytes : List UInt8}
  {offset start position padding : Nat}

/-- A byte is read as a group if it is the symbol of this group. -/
theorem group?_eq_some_iff : group? byte = some group ↔ byte = symbol group := by
  constructor
  · have symbols : ∀ code : Fin 256,
        (group? (UInt8.ofNat code.val)).all
          (fun group => symbol group == UInt8.ofNat code.val) = true := by
      decide +kernel
    intro read
    have same := symbols ⟨byte.toNat, byte.toNat_lt⟩
    rw [UInt8.ofNat_toNat, read] at same
    exact (beq_iff_eq.1 same).symm
  · rintro rfl
    exact group?_symbol group

theorem symbol_ne_pad : symbol group ≠ pad := by
  intro same
  have read := group?_symbol group
  rw [same, group?_pad] at read
  exact absurd read (by simp)

/-- A run of symbols is read as the groups that they are the symbols of. -/
theorem readBody_eq_ok_iff :
    readBody offset written = .ok values ↔ written = values.map symbol := by
  induction written generalizing offset values with
  | nil => cases values <;> simp [readBody]
  | cons byte rest inductionHypothesis =>
      cases values with
      | nil =>
          simp only [readBody, List.map_nil, reduceCtorEq, iff_false]
          split
          · simp
          · split <;> simp
      | cons value values =>
          have restRead : readBody (offset + 1) rest = .ok values ↔ rest = values.map symbol :=
            inductionHypothesis
          rw [readBody, List.map_cons, List.cons.injEq, ← group?_eq_some_iff, ← restRead]
          cases group? byte with
          | none => simp
          | some read => cases readBody (offset + 1) rest <;> simp

/-- A last block is read as groups and padding if their symbols and the padding are what is
written there, and no padding comes before the third place. -/
theorem readLast_eq_ok_iff :
    readLast start position written = .ok (values, padding) ↔
      written = values.map symbol ++ List.replicate padding pad ∧
        (padding = 0 ∨ 2 ≤ position + values.length) := by
  induction written generalizing position values with
  | nil => cases values <;> cases padding <;> simp [readLast, List.replicate_succ]
  | cons byte rest inductionHypothesis =>
      rw [readLast]
      by_cases padded : byte = pad
      · -- Padding goes on to the end of the block, so no groups follow.
        rw [if_pos padded]
        cases values with
        | nil =>
            rw [List.map_nil, List.nil_append, List.eq_replicate_iff, List.forall_mem_cons]
            by_cases ends : 2 ≤ position ∧ rest.all (· == pad) = true
            · have allPadding : ∀ other ∈ rest, other = pad := by simpa using ends.2
              rw [if_pos ends]
              constructor
              · intro read
                obtain rfl : rest.length + 1 = padding := by simpa using read
                exact ⟨⟨rfl, padded, allPadding⟩, .inr ends.1⟩
              · rintro ⟨⟨rfl, -⟩, -⟩
                rfl
            · rw [if_neg ends]
              simp only [reduceCtorEq, false_iff]
              rintro ⟨⟨length, -, allPadding⟩, zero | late⟩
              · exact absurd (length.trans zero) (by simp)
              · exact ends ⟨late, by simpa using allPadding⟩
        | cons value values =>
            rw [List.map_cons, List.cons_append, List.cons.injEq]
            have unlike : byte ≠ symbol value := padded ▸ symbol_ne_pad.symm
            split <;> simp [unlike]
      · rw [if_neg padded]
        cases values with
        | nil =>
            rw [List.map_nil, List.nil_append, List.eq_replicate_iff, List.forall_mem_cons]
            split
            · simp [padded]
            · split <;> simp [padded]
        | cons value values =>
            rw [List.map_cons, List.cons_append, List.cons.injEq, ← group?_eq_some_iff,
              List.length_cons, Nat.add_comm values.length 1, ← Nat.add_assoc, and_assoc,
              ← inductionHypothesis]
            cases group? byte with
            | none => simp
            | some read =>
                cases readLast start (position + 1) rest <;> simp [Prod.ext_iff, and_assoc]

/-- A last block passes if it is empty or has two symbols at least, if its padding fills it,
and if it has no unused bits that are set. -/
theorem checkLast_eq_ok_iff :
    checkLast written start padding values = .ok () ↔
      (written ≠ [] → 2 ≤ values.length) ∧ (values.length + padding) % 4 = 0 ∧
        unusedBits values = 0 := by
  rw [checkLast]
  by_cases short : written ≠ [] ∧ values.length < 2
  case pos =>
    rw [if_pos short]
    simp only [reduceCtorEq, false_iff]
    exact fun passes => absurd (passes.1 short.1) (Nat.not_le_of_lt short.2)
  have long : written ≠ [] → 2 ≤ values.length := fun nonempty =>
    Nat.le_of_not_lt fun few => short ⟨nonempty, few⟩
  rw [if_neg short]
  by_cases filled : (values.length + padding) % 4 = 0
  case neg => simp [filled]
  rw [if_neg (not_not_intro filled)]
  cases ends : values.getLast? with
  | none =>
      obtain rfl := List.getLast?_eq_none_iff.1 ends
      exact iff_of_true rfl ⟨long, filled, rfl⟩
  | some group =>
      by_cases unset : unusedBits values = 0
      · exact iff_of_true (if_neg (not_not_intro unset)) ⟨long, filled, unset⟩
      · simp [unset]

/-- No lone byte is reported if the length is a multiple of four. -/
theorem checkLoneByte_of_blocks
    (blocks : written.length % 4 = 0) :
    checkLoneByte written = .ok () := by
  have notLone : written.length % 4 ≠ 1 := by omega
  rw [checkLoneByte]
  split
  · rfl
  · exact if_neg fun lone => notLone lone.1

end Symbols

/-! ## Decoding -/

section Decoding

variable {bytes written : List UInt8}

/-- The number of padding bytes after a number of symbols. -/
def padded (length : Nat) : Nat :=
  (4 - length % 4) % 4

theorem encodeSymbols_eq :
    encodeSymbols bytes =
      (groups bytes).map symbol ++ List.replicate (padded (groups bytes).length) pad := by
  rw [encodeSymbols, List.length_map, padded]

/-- No block has a single group. -/
theorem length_groups_mod_ne_one
    (bytes : List UInt8) :
    (groups bytes).length % 4 ≠ 1 := by
  have size := length_groups bytes
  unfold unused at size
  omega

/-- The last block comes after full blocks. It has one to four bytes, if there are any. -/
theorem bodyLength_spec
    (length : Nat) :
    bodyLength length % 4 = 0 ∧ bodyLength length ≤ length ∧ length ≤ bodyLength length + 4 ∧
      (0 < length → bodyLength length < length) := by
  unfold bodyLength
  split <;> omega

/-- What is read goes through all checks and is put together. -/
theorem decode_eq_ok_iff_exists :
    decode written = .ok bytes ↔
      checkLoneByte written = .ok () ∧ ∃ body last padding,
        readBody 0 (written.take (bodyLength written.length)) = .ok body ∧
        readLast (bodyLength written.length) 0 (written.drop (bodyLength written.length)) =
          .ok (last, padding) ∧
        checkLast written (bodyLength written.length) padding last = .ok () ∧
        ungroup (body ++ last) = bytes := by
  have bind_eq_ok_iff
      {α β : Type}
      {read : Except DecodeError α}
      {go : α → Except DecodeError β}
      {result : β} :
      (read >>= go) = .ok result ↔ ∃ value, read = .ok value ∧ go value = .ok result := by
    cases read <;> simp [bind, Except.bind]
  simp only [decode, bind_eq_ok_iff, Prod.exists]
  constructor
  · rintro ⟨⟨⟩, lone, body, bodyRead, last, padding, lastRead, ⟨⟩, passes, made⟩
    exact ⟨lone, body, last, padding, bodyRead, lastRead, passes, Except.ok.inj made⟩
  · rintro ⟨lone, body, last, padding, bodyRead, lastRead, passes, rfl⟩
    exact ⟨(), lone, body, bodyRead, last, padding, lastRead, (), passes, rfl⟩

/-- What is read as bytes is what these bytes are written as. -/
theorem eq_encodeSymbols_of_decode
    (decoded : decode written = .ok bytes) :
    written = encodeSymbols bytes := by
  obtain ⟨fullBlocks, inside, atMost, -⟩ := bodyLength_spec written.length
  obtain ⟨-, body, last, padding, bodyRead, lastRead, passes, rfl⟩ :=
    decode_eq_ok_iff_exists.1 decoded
  have bodyWritten := readBody_eq_ok_iff.1 bodyRead
  obtain ⟨lastWritten, -⟩ := readLast_eq_ok_iff.1 lastRead
  obtain ⟨long, filled, unset⟩ := checkLast_eq_ok_iff.1 passes
  -- The sizes of the two parts decide how many groups there are, and how much padding.
  have bodySize := congrArg List.length bodyWritten
  have lastSize := congrArg List.length lastWritten
  rw [List.length_take, List.length_map] at bodySize
  rw [List.length_drop, List.length_append, List.length_map, List.length_replicate] at lastSize
  have lastLong : written.length = 0 ∨ 2 ≤ last.length :=
    (Nat.eq_zero_or_pos _).imp_right fun positive => long (List.ne_nil_of_length_pos positive)
  have sameGroups : groups (ungroup (body ++ last)) = body ++ last := by
    refine groups_ungroup _ ?_ ?_
    · rw [unusedBits_append body (by omega), unset]
    · rw [List.length_append]
      omega
  have samePadding : padding = padded (body ++ last).length := by
    rw [List.length_append, padded]
    omega
  rw [encodeSymbols_eq, sameGroups, ← samePadding, List.map_append, List.append_assoc,
    ← bodyWritten, ← lastWritten, List.take_append_drop]

/-- Symbols with their padding are read in two parts, none of which is cut short. -/
theorem decode_encodeSymbols : decode (encodeSymbols bytes) = .ok bytes := by
  have whole := length_groups_mod_ne_one bytes
  have size : (encodeSymbols bytes).length =
      (groups bytes).length + padded (groups bytes).length := by
    rw [encodeSymbols_eq, List.length_append, List.length_map, List.length_replicate]
  -- No block has a single group, so the padding leaves two symbols at least to the last block.
  have few : padded (groups bytes).length ≤ 2 ∧
      ((groups bytes).length + padded (groups bytes).length) % 4 = 0 := by
    unfold padded
    omega
  rw [decode_eq_ok_iff_exists]
  obtain ⟨fullBlocks, inside, atMost, atLeast⟩ :=
    bodyLength_spec (encodeSymbols bytes).length
  generalize bodyLength (encodeSymbols bytes).length = start at fullBlocks inside atMost atLeast ⊢
  have beforePadding : start ≤ (groups bytes).length := by omega
  have bodyWritten : (encodeSymbols bytes).take start = ((groups bytes).take start).map symbol := by
    rw [encodeSymbols_eq, List.take_append_of_le_length (by rwa [List.length_map]), List.map_take]
  have lastWritten : (encodeSymbols bytes).drop start = ((groups bytes).drop start).map symbol ++
      List.replicate (padded (groups bytes).length) pad := by
    rw [encodeSymbols_eq, List.drop_append_of_le_length (by rwa [List.length_map]), List.map_drop]
  have lastSize : ((groups bytes).drop start).length = (groups bytes).length - start :=
    List.length_drop
  have unset : unusedBits ((groups bytes).drop start) = 0 := by
    rw [← unusedBits_append ((groups bytes).take start) (by rw [List.length_take]; omega),
      List.take_append_drop, unusedBits_groups]
  refine ⟨checkLoneByte_of_blocks (by omega), _, _, _, readBody_eq_ok_iff.2 bodyWritten,
    readLast_eq_ok_iff.2 ⟨lastWritten, by omega⟩,
    checkLast_eq_ok_iff.2 ⟨fun nonempty => ?_, by omega, unset⟩, ?_⟩
  · have positive := List.length_pos_iff.2 nonempty
    omega
  · rw [List.take_append_drop, ungroup_groups]

end Decoding

/-! ## Texts -/

section Texts

variable
  {text other : String}
  {bytes others written : List UInt8}

/-- Bytes that are codes of ASCII characters are what these characters are encoded as. -/
theorem toUTF8_ofList_of_ascii
    (ascii : ∀ byte ∈ written, byte.toNat < 128) :
    (String.ofList (written.map fun byte => Char.ofNat byte.toNat)).toUTF8.data.toList =
      written := by
  have encodings : ∀ code : Fin 128,
      String.utf8EncodeChar (Char.ofNat code.val) = [UInt8.ofNat code.val] := by
    decide +kernel
  have bytewise : (written.map fun byte => Char.ofNat byte.toNat).flatMap String.utf8EncodeChar =
      written := by
    induction written with
    | nil => rfl
    | cons byte rest inductionHypothesis =>
        rw [List.forall_mem_cons] at ascii
        rw [List.map_cons, List.flatMap_cons, inductionHypothesis ascii.2,
          encodings ⟨byte.toNat, ascii.1⟩, UInt8.ofNat_toNat]
        rfl
  rw [String.toUTF8_eq_toByteArray, String.toByteArray_ofList, List.utf8Encode, bytewise,
    List.toList_data_toByteArray]

/-- Texts are told apart by their bytes. -/
theorem eq_of_toUTF8_eq
    (same : text.toUTF8.data.toList = other.toUTF8.data.toList) :
    text = other :=
  String.toByteArray_inj.1 (ByteArray.ext (Array.toList_inj.1 same))

theorem toUTF8_encode : (encode bytes).toUTF8.data.toList = encodeSymbols bytes := by
  rw [encode]
  refine toUTF8_ofList_of_ascii fun byte present => ?_
  rw [encodeSymbols_eq, List.mem_append, List.mem_map] at present
  rcases present with ⟨group, -, rfl⟩ | padding
  · have ascii : ∀ group : Sextet, (symbol group).toNat < 128 := by decide
    exact ascii group
  · rw [List.eq_of_mem_replicate padding]
    decide

/-- Only the text that bytes are written as is read as these bytes. -/
theorem decode_toUTF8_eq_ok_iff :
    decode text.toUTF8.data.toList = .ok bytes ↔ text = encode bytes := by
  constructor
  · intro decoded
    exact eq_of_toUTF8_eq ((eq_encodeSymbols_of_decode decoded).trans toUTF8_encode.symm)
  · rintro rfl
    rw [toUTF8_encode, decode_encodeSymbols]

/-! ## Forms -/

/-- The characters that stand for groups, in the order of the groups. -/
def alphabet : List Char :=
  "ABCDEFGHIJKLMNOPQRSTUVWXYZabcdefghijklmnopqrstuvwxyz0123456789+/".toList

/-- Whether a text is the base64 form of bytes: its characters stand for groups of six bits
that hold the bits of the bytes and fewer than six zeros after them, and the padding makes its
length the next multiple of four. -/
def IsForm
    (text : String)
    (bytes : List UInt8) : Prop :=
  ∃ (values : List Sextet) (zeros padding : Nat),
    groupBits values = byteBits bytes ++ List.replicate zeros false ∧ zeros < 6 ∧
      text.toList = values.map (fun value => alphabet.getD value.val 'A') ++
        List.replicate padding '=' ∧
      (values.length + padding) % 4 = 0 ∧ padding < 4

/-- The characters that bytes are written as are those of their groups, and the padding. -/
theorem toList_encode :
    (encode bytes).toList =
      (groups bytes).map (fun value => alphabet.getD value.val 'A') ++
        List.replicate (padded (groups bytes).length) '=' := by
  have characters : ∀ value : Sextet,
      Char.ofNat (symbol value).toNat = alphabet.getD value.val 'A' := by
    decide +kernel
  rw [encode, String.toList_ofList, encodeSymbols_eq, List.map_append, List.map_map,
    List.map_replicate]
  exact congrArg (· ++ _) (List.map_congr_left fun value _ => characters value)

/-- Every byte string has one form, the text that it is written as. -/
theorem isForm_iff : IsForm text bytes ↔ text = encode bytes := by
  constructor
  · rintro ⟨values, zeros, padding, same, few, written, filled, little⟩
    obtain rfl := eq_groups_of_groupBits few same
    obtain rfl : padding = padded (groups bytes).length := by
      unfold padded
      omega
    rw [← String.toList_inj, written, toList_encode]
  · rintro rfl
    have few : unused bytes.length < 6 := by
      unfold unused
      omega
    have filled : ((groups bytes).length + padded (groups bytes).length) % 4 = 0 := by
      unfold padded
      omega
    exact ⟨groups bytes, _, _, groupBits_groups, few, toList_encode, filled,
      Nat.mod_lt _ (by decide)⟩

/-- Exactly the forms are read. -/
theorem decode_eq_ok_iff_isForm :
    decode text.toUTF8.data.toList = .ok bytes ↔ IsForm text bytes := by
  rw [decode_toUTF8_eq_ok_iff, isForm_iff]

/-- A text is the form of one byte string at most. -/
theorem IsForm.unique
    (form : IsForm text bytes)
    (otherForm : IsForm text others) :
    bytes = others := by
  have read := decode_eq_ok_iff_isForm.2 form
  rw [decode_eq_ok_iff_isForm.2 otherForm] at read
  exact (Except.ok.inj read).symm

end Texts

end Base64
end TrustPolicy
