import BulkOnly.Wrapper.Command
import Mathlib.Data.List.Basic

set_option autoImplicit false

namespace BulkOnly

namespace CommandWrapper

structure Grammatical (data : Bytes) : Prop where
  size : headerLength < data.length ∧ data.length ≤ encodedLength
  signed : Bytes.littleEndian 4 signature <+: data
  unit : data.getD 13 0 &&& 0x1f = 0
  blockLength : 1 ≤ (data.getD 14 0).toNat ∧ (data.getD 14 0).toNat ≤ 16
  complete : headerLength + (data.getD 14 0).toNat ≤ data.length

def faults (data : Bytes) : List (Bool × Rejection) :=
  [(decide (¬ (headerLength < data.length ∧ data.length ≤ encodedLength)), .size data.length),
    (decide (¬ Bytes.littleEndian 4 signature <+: data), .signature (Bytes.word data 0 4)),
    (decide (¬ data.getD 13 0 &&& 0x1f = 0), .lun (data.getD 13 0 &&& 0x1f)),
    (decide (¬ (1 ≤ (data.getD 14 0).toNat ∧ (data.getD 14 0).toNat ≤ 16)),
      .blockLength (data.getD 14 0)),
    (decide (¬ headerLength + (data.getD 14 0).toNat ≤ data.length), .size data.length)]

def firstFault? (data : Bytes) : Option Rejection :=
  ((faults data).find? Prod.fst).map Prod.snd

def fields (data : Bytes) : CommandWrapper where
  tag := UInt32.ofNat (Bytes.word data 4 4)
  transferLength := UInt32.ofNat (Bytes.word data 8 4)
  flags := data.getD 12 0
  lun := data.getD 13 0
  blockLength := data.getD 14 0
  block := Bytes.padded 16 ((data.drop headerLength).take (data.getD 14 0).toNat)

theorem signed_iff {data : Bytes} (long : 4 ≤ data.length) :
    Bytes.littleEndian 4 signature <+: data ↔ Bytes.word data 0 4 = signature :=
  Bytes.littleEndian_front_iff long (by decide)

theorem blockLength_iff (found : UInt8) :
    1 ≤ found.toNat ∧ found.toNat ≤ 16 ↔ ¬ (found = 0 ∨ 16 < found) := by
  rw [not_or, UInt8.not_lt, ← UInt8.toNat_inj, UInt8.le_iff_toNat_le]
  exact and_congr_left fun _ => Nat.one_le_iff_ne_zero

theorem find?_cons_decide (wrong : Prop) [Decidable wrong] (reason : Rejection)
    (rest : List (Bool × Rejection)) :
    (((decide wrong, reason) :: rest).find? Prod.fst).map Prod.snd =
      if wrong then some reason else (rest.find? Prod.fst).map Prod.snd := by
  by_cases holds : wrong <;> simp [holds]

theorem firstFault?_eq_none_iff {data : Bytes} : firstFault? data = none ↔ Grammatical data := by
  simp only [firstFault?, faults, Option.map_eq_none_iff, List.find?_eq_none, List.mem_cons,
    List.not_mem_nil, or_false, forall_eq_or_imp, forall_eq, decide_eq_true_eq, not_not]
  constructor
  · rintro ⟨size, signed, unit, blockLength, complete⟩
    exact ⟨size, signed, unit, blockLength, complete⟩
  · rintro ⟨size, signed, unit, blockLength, complete⟩
    exact ⟨size, signed, unit, blockLength, complete⟩

theorem parse_eq (data : Bytes) :
    parse data =
      match firstFault? data with
      | some reason => .error reason
      | none => .ok (fields data) := by
  simp only [parse, firstFault?, faults, find?_cons_decide]
  by_cases size : headerLength < data.length ∧ data.length ≤ encodedLength
  case neg =>
    have outside : data.length ≤ headerLength ∨ encodedLength < data.length := by omega
    rw [if_pos outside, if_pos size]
  rw [if_neg (by omega), if_neg (not_not.mpr size)]
  have long : 4 ≤ data.length := Nat.le_trans (by decide) (Nat.le_of_lt size.1)
  have word := signed_iff long
  by_cases signed : Bytes.littleEndian 4 signature <+: data
  case neg => rw [if_pos (word.not.mp signed), if_pos signed]
  rw [if_neg (not_not.mpr (word.mp signed)), if_neg (not_not.mpr signed)]
  by_cases unit : data.getD 13 0 &&& 0x1f = 0
  case neg => rw [if_pos unit, if_pos unit]
  rw [if_neg (not_not.mpr unit), if_neg (not_not.mpr unit)]
  have length := blockLength_iff (data.getD 14 0)
  by_cases block : 1 ≤ (data.getD 14 0).toNat ∧ (data.getD 14 0).toNat ≤ 16
  case neg => rw [if_pos (not_not.mp (length.not.mp block)), if_pos block]
  rw [if_neg (length.mp block), if_neg (not_not.mpr block)]
  by_cases complete : headerLength + (data.getD 14 0).toNat ≤ data.length
  case neg => rw [if_pos (Nat.not_le.mp complete), if_pos complete]
  rw [if_neg (Nat.not_lt.mpr complete), if_neg (not_not.mpr complete)]
  rfl

theorem parse_eq_ok_iff {data : Bytes} {wrapper : CommandWrapper} :
    parse data = .ok wrapper ↔ Grammatical data ∧ fields data = wrapper := by
  rw [parse_eq, ← firstFault?_eq_none_iff]
  cases firstFault? data <;> simp

theorem parse_eq_error_iff {data : Bytes} {reason : Rejection} :
    parse data = .error reason ↔ firstFault? data = some reason := by
  rw [parse_eq]
  cases firstFault? data <;> simp

theorem littleEndian_field {data : Bytes} {offset : Nat} (inside : offset + 4 ≤ data.length) :
    Bytes.littleEndian 4 (UInt32.ofNat (Bytes.word data offset 4)).toNat =
      (data.drop offset).take 4 := by
  rw [UInt32.toNat_ofNat_of_lt' (Bytes.word_lt data offset 4), Bytes.littleEndian_word inside]

theorem Grammatical.sent {data : Bytes} (grammatical : Grammatical data) :
    ((data.drop headerLength).take (data.getD 14 0).toNat).length = (data.getD 14 0).toNat := by
  have complete := grammatical.complete
  rw [List.length_take, List.length_drop]
  omega

theorem Grammatical.block {data : Bytes} (grammatical : Grammatical data) :
    (fields data).block.toList =
      (data.drop headerLength).take (data.getD 14 0).toNat ++
        List.replicate (16 - (data.getD 14 0).toNat) 0 := by
  have sent := grammatical.sent
  have small := grammatical.blockLength.2
  rw [fields, Bytes.toList_padded, sent, List.take_of_length_le (by rw [sent]; exact small)]

theorem encode_fields {data : Bytes} (grammatical : Grammatical data) :
    (fields data).encode =
      data.take (headerLength + (data.getD 14 0).toNat) ++
        List.replicate (16 - (data.getD 14 0).toNat) 0 := by
  have inside : 15 < data.length := grammatical.size.1
  have start : Bytes.littleEndian 4 signature = data.take 4 := by
    rw [List.prefix_iff_eq_take.mp grammatical.signed, Bytes.length_littleEndian]
  have byte (index : Nat) (early : index < 15) :
      data.drop index = data.getD index 0 :: data.drop (index + 1) := by
    rw [List.drop_eq_getElem_cons (Nat.lt_trans early inside), List.getD_eq_getElem?_getD,
      List.getElem?_eq_getElem, Option.getD_some]
  have bytes : (data.drop 12).take 3 = [data.getD 12 0, data.getD 13 0, data.getD 14 0] := by
    rw [byte 12 (by decide), byte 13 (by decide), byte 14 (by decide)]
    rfl
  have header : data.take headerLength =
      data.take 4 ++ ((data.drop 4).take 4 ++ ((data.drop 8).take 4 ++ (data.drop 12).take 3)) := by
    rw [show headerLength = 4 + (4 + (4 + 3)) from rfl]
    simp only [List.take_add, List.drop_drop]
  have field {offset : Nat} (early : offset + 4 ≤ 15) :=
    littleEndian_field (Nat.le_trans early (Nat.le_of_lt inside))
  have tag := field (show 4 + 4 ≤ 15 by decide)
  have transferLength := field (show 8 + 4 ≤ 15 by decide)
  rw [encode, grammatical.block, List.take_add, header, start, bytes]
  simp only [fields, tag, transferLength, List.append_assoc]

-- The top bits of the unit's byte are free, but of the block nothing may stand past its length.
structure Canonical (wrapper : CommandWrapper) : Prop where
  unit : wrapper.lun &&& 0x1f = 0
  blockLength : wrapper.HasValidBlockLength
  cleared : wrapper.block.toList.drop wrapper.blockLength.toNat =
    List.replicate (16 - wrapper.blockLength.toNat) 0

theorem canonical_fields {data : Bytes} (grammatical : Grammatical data) :
    (fields data).Canonical := by
  refine ⟨grammatical.unit, grammatical.blockLength, ?_⟩
  rw [grammatical.block]
  exact List.drop_left' grammatical.sent

section Agreement

variable {data other : Bytes} (grammatical : Grammatical data)
  (agrees : other.take (headerLength + (data.getD 14 0).toNat) =
    data.take (headerLength + (data.getD 14 0).toNat))
include agrees

theorem getD_of_agrees {index : Nat} (early : index < headerLength) :
    other.getD index 0 = data.getD index 0 := by
  have inside : index < headerLength + (data.getD 14 0).toNat := Nat.lt_add_right _ early
  rw [← Bytes.getD_take inside, agrees, Bytes.getD_take inside]

theorem word_of_agrees {offset : Nat} (early : offset + 4 ≤ headerLength) :
    Bytes.word other offset 4 = Bytes.word data offset 4 := by
  have inside : offset + 4 ≤ headerLength + (data.getD 14 0).toNat := Nat.le_add_right_of_le early
  rw [← Bytes.word_take inside, agrees, Bytes.word_take inside]

theorem fields_of_agrees : fields other = fields data := by
  have length : other.getD 14 0 = data.getD 14 0 := getD_of_agrees agrees (by decide)
  have block : (other.drop headerLength).take (data.getD 14 0).toNat =
      (data.drop headerLength).take (data.getD 14 0).toNat := by
    have dropped := congrArg (List.drop headerLength) agrees
    rwa [List.drop_take, List.drop_take, Nat.add_sub_cancel_left] at dropped
  simp only [fields]
  rw [word_of_agrees agrees (by decide), word_of_agrees agrees (by decide),
    getD_of_agrees agrees (by decide), getD_of_agrees agrees (by decide), length, block]

include grammatical

theorem grammatical_of_agrees (short : other.length ≤ encodedLength) : Grammatical other := by
  obtain ⟨-, signed, unit, blockLength, complete⟩ := grammatical
  have length : other.getD 14 0 = data.getD 14 0 := getD_of_agrees agrees (by decide)
  have long : headerLength + (data.getD 14 0).toNat ≤ other.length := by
    have lengths := congrArg List.length agrees
    rw [List.length_take, List.length_take, Nat.min_eq_left complete] at lengths
    omega
  refine ⟨⟨by omega, short⟩, ?_, ?_, ?_, ?_⟩
  · have front : Bytes.littleEndian 4 signature <+:
        data.take (headerLength + (data.getD 14 0).toNat) := by
      rw [List.prefix_take_iff, Bytes.length_littleEndian]
      exact ⟨signed, Nat.le_trans (by decide) (Nat.le_add_right headerLength _)⟩
    rw [← agrees] at front
    exact front.trans (List.take_prefix _ _)
  · rw [getD_of_agrees agrees (by decide)]
    exact unit
  · rw [length]
    exact blockLength
  · rw [length]
    exact long

end Agreement

section Encoded

variable {wrapper : CommandWrapper}

theorem unit_encode (wrapper : CommandWrapper) : wrapper.encode.getD 13 0 = wrapper.lun := by
  simp [encode]

theorem blockLength_encode (wrapper : CommandWrapper) :
    wrapper.encode.getD 14 0 = wrapper.blockLength := by
  simp [encode]

theorem block_encode (wrapper : CommandWrapper) :
    wrapper.encode.drop headerLength = wrapper.block.toList := by
  let header := Bytes.littleEndian 4 signature
    ++ (Bytes.littleEndian 4 wrapper.tag.toNat
    ++ (Bytes.littleEndian 4 wrapper.transferLength.toNat
    ++ [wrapper.flags, wrapper.lun, wrapper.blockLength]))
  have whole : wrapper.encode = header ++ wrapper.block.toList := by simp [encode, header]
  rw [whole]
  exact List.drop_left' (by simp [header, headerLength])

theorem fields_encode (canonical : wrapper.Canonical) : fields wrapper.encode = wrapper := by
  have tag : Bytes.word wrapper.encode 4 4 = wrapper.tag.toNat :=
    Bytes.word_littleEndian (Bytes.length_littleEndian 4 signature) wrapper.tag.toNat_lt
  have transferLength : Bytes.word wrapper.encode 8 4 = wrapper.transferLength.toNat := by
    rw [encode, ← List.append_assoc]
    exact Bytes.word_littleEndian (by simp) wrapper.transferLength.toNat_lt
  have flags : wrapper.encode.getD 12 0 = wrapper.flags := by simp [encode]
  have block : Bytes.padded 16 (wrapper.block.toList.take wrapper.blockLength.toNat) =
      wrapper.block := by
    have few := canonical.blockLength.2
    have length : (wrapper.block.toList.take wrapper.blockLength.toNat).length =
        wrapper.blockLength.toNat := by
      rw [List.length_take, Vector.length_toList, Nat.min_eq_left few]
    apply Vector.toList_inj.mp
    rw [Bytes.toList_padded, length, ← canonical.cleared,
      List.take_of_length_le (by rw [length]; exact few), List.take_append_drop]
  rw [fields, tag, transferLength, flags, unit_encode, blockLength_encode, block_encode, block]
  simp

theorem grammatical_encode (canonical : wrapper.Canonical) : Grammatical wrapper.encode := by
  obtain ⟨unit, ⟨some_bytes, few⟩, -⟩ := canonical
  refine ⟨?_, List.prefix_append _ _, ?_, ?_, ?_⟩
  · rw [length_encode]
    decide
  · rw [unit_encode]
    exact unit
  · rw [blockLength_encode]
    exact ⟨some_bytes, few⟩
  · rw [blockLength_encode, length_encode]
    exact Nat.add_le_add_left few headerLength

theorem parse_take_encode (canonical : wrapper.Canonical) {n : Nat}
    (covers : headerLength + wrapper.blockLength.toNat ≤ n) (short : n ≤ encodedLength) :
    parse (wrapper.encode.take n) = .ok wrapper := by
  have agrees : (wrapper.encode.take n).take (headerLength + (wrapper.encode.getD 14 0).toNat) =
      wrapper.encode.take (headerLength + (wrapper.encode.getD 14 0).toNat) := by
    rw [List.take_take, blockLength_encode, Nat.min_eq_left covers]
  have length : (wrapper.encode.take n).length ≤ encodedLength :=
    Nat.le_trans (List.length_take_le n _) short
  rw [parse_eq_ok_iff, fields_of_agrees agrees]
  exact ⟨grammatical_of_agrees (grammatical_encode canonical) agrees length,
    fields_encode canonical⟩

theorem exists_ofCommand? (tag transferLength : UInt32) (direction : Direction) {command : Bytes}
    (some_bytes : 1 ≤ command.length) (few : command.length ≤ 16) :
    ∃ wrapper, ofCommand? tag transferLength direction command = some wrapper ∧
      wrapper.Canonical ∧ wrapper.blockLength.toNat = command.length := by
  have fits : ¬ (command.isEmpty ∨ 16 < command.length) := by
    rw [List.isEmpty_iff_length_eq_zero]
    omega
  have length : (UInt8.ofNat command.length).toNat = command.length :=
    UInt8.toNat_ofNat_of_lt' (Nat.lt_of_le_of_lt few (by decide))
  refine ⟨_, if_neg fits, ⟨by simp, ⟨?_, ?_⟩, ?_⟩, length⟩
  · rw [length]
    exact some_bytes
  · rw [length]
    exact few
  · rw [length, Bytes.toList_padded, List.take_of_length_le few]
    exact List.drop_left

end Encoded

structure ReadExactly (data : Bytes) : Prop where
  accepted : (∃ wrapper, parse data = .ok wrapper) ↔ Grammatical data
  refused (reason : Rejection) : parse data = .error reason ↔ firstFault? data = some reason
  encoded (wrapper : CommandWrapper) : parse data = .ok wrapper →
    wrapper.encode.length = encodedLength ∧
      wrapper.encode = data.take (headerLength + (data.getD 14 0).toNat) ++
        List.replicate (16 - (data.getD 14 0).toNat) 0
  again (wrapper : CommandWrapper) : parse data = .ok wrapper → parse wrapper.encode = .ok wrapper
  trailing (wrapper : CommandWrapper) (other : Bytes) : parse data = .ok wrapper →
    headerLength < other.length → other.length ≤ encodedLength →
    other.take (headerLength + (data.getD 14 0).toNat) =
      data.take (headerLength + (data.getD 14 0).toNat) →
    parse other = .ok wrapper

theorem readExactly (data : Bytes) : ReadExactly data := by
  constructor
  case accepted => simp only [parse_eq_ok_iff, exists_and_left, exists_eq', and_true]
  case refused => exact fun reason => parse_eq_error_iff
  case encoded =>
    intro wrapper parsed
    obtain ⟨grammatical, rfl⟩ := parse_eq_ok_iff.mp parsed
    exact ⟨length_encode _, encode_fields grammatical⟩
  case again =>
    intro wrapper parsed
    obtain ⟨grammatical, rfl⟩ := parse_eq_ok_iff.mp parsed
    have canonical := canonical_fields grammatical
    exact parse_eq_ok_iff.mpr ⟨grammatical_encode canonical, fields_encode canonical⟩
  case trailing =>
    intro wrapper other parsed _ short agrees
    obtain ⟨grammatical, rfl⟩ := parse_eq_ok_iff.mp parsed
    exact parse_eq_ok_iff.mpr
      ⟨grammatical_of_agrees grammatical agrees short, fields_of_agrees agrees⟩

theorem wrappers_read_exactly :
    (∀ data, ReadExactly data) ∧
      (∀ wrapper : CommandWrapper, wrapper.Canonical → ∀ n,
        headerLength + wrapper.blockLength.toNat ≤ n → n ≤ encodedLength →
        parse (wrapper.encode.take n) = .ok wrapper) ∧
      ∀ tag transferLength direction command, 1 ≤ command.length → command.length ≤ 16 →
        ∃ wrapper, ofCommand? tag transferLength direction command = some wrapper ∧
          wrapper.Canonical ∧
          ∀ n, headerLength + command.length ≤ n → n ≤ encodedLength →
            parse (wrapper.encode.take n) = .ok wrapper := by
  refine ⟨readExactly, fun wrapper canonical n => parse_take_encode canonical, ?_⟩
  intro tag transferLength direction command some_bytes few
  obtain ⟨wrapper, made, canonical, length⟩ :=
    exists_ofCommand? tag transferLength direction some_bytes few
  refine ⟨wrapper, made, canonical, fun n covers short => parse_take_encode canonical ?_ short⟩
  rw [length]
  exact covers

def inquiry : CommandWrapper :=
  { tag := 1, transferLength := 36, flags := 0x80, blockLength := 6
    block := Bytes.padded 16 [0x12, 0, 0, 0, 36, 0] }

theorem wrappers_read_exactly_inquiry :
    inquiry.Canonical ∧ parse (inquiry.encode.take 21) = .ok inquiry ∧
      parse (inquiry.encode.take 21 ++ [7, 8, 9]) = .ok inquiry ∧
      ∃ wrapper, ofCommand? 1 36 .toHost [0x12, 0, 0, 0, 36, 0] = some wrapper ∧
        parse (wrapper.encode.take 21) = .ok wrapper := by
  obtain ⟨reads, back, made⟩ := wrappers_read_exactly
  have canonical : inquiry.Canonical := ⟨by decide, by decide, by decide⟩
  have parsed := back inquiry canonical 21 (by decide) (by decide)
  have trailing := (reads (inquiry.encode.take 21)).trailing inquiry
    (inquiry.encode.take 21 ++ [7, 8, 9]) parsed (by decide) (by decide) (by decide)
  obtain ⟨wrapper, same, -, again⟩ :=
    made 1 36 .toHost [0x12, 0, 0, 0, 36, 0] (by decide) (by decide)
  exact ⟨canonical, parsed, trailing, wrapper, same, again 21 (by decide) (by decide)⟩

end CommandWrapper

end BulkOnly
