import BulkOnly.Proofs.Directions
import BulkOnly.Proofs.Grammar

set_option autoImplicit false

namespace BulkOnly

namespace StatusWrapper

variable {data : Bytes} {wrapper : StatusWrapper}

structure Grammatical (data : Bytes) : Prop where
  size : data.length = encodedLength
  signed : Bytes.littleEndian 4 signature <+: data
  code : (data.getD 12 0).toNat ≤ 2

theorem eq_encode_of_parse? (parsed : parse? data = some wrapper) : data = wrapper.encode := by
  unfold parse? at parsed
  split at parsed
  case isTrue => cases parsed
  case isFalse shape =>
    obtain ⟨size, signed⟩ := not_or.mp shape
    have size : data.length = 13 := not_not.mp size
    obtain ⟨status, known, rfl⟩ := Option.map_eq_some_iff.mp parsed
    have code := CommandStatus.ofCode?_eq_some_iff.mp known
    have tag := UInt32.toNat_ofNat_of_lt' (Bytes.word_lt data 4 4)
    have residue := UInt32.toNat_ofNat_of_lt' (Bytes.word_lt data 8 4)
    have first : data.take 4 = Bytes.littleEndian 4 (Bytes.word data 0 4) :=
      Bytes.take_add_word 0 4 (by omega)
    have second : data.take 8 = data.take 4 ++ Bytes.littleEndian 4 (Bytes.word data 4 4) :=
      Bytes.take_add_word 4 4 (by omega)
    have third : data.take 12 = data.take 8 ++ Bytes.littleEndian 4 (Bytes.word data 8 4) :=
      Bytes.take_add_word 8 4 (by omega)
    calc data
        = data.take 13 := (List.take_of_length_le (Nat.le_of_eq size)).symm
      _ = data.take 12 ++ [data.getD 12 0] := Bytes.take_add_one (by omega)
      _ = _ := by
          simp only [third, second, first, encode, not_not.mp signed, tag, residue, code,
            List.append_assoc]

theorem parse?_eq_some_iff : parse? data = some wrapper ↔ data = wrapper.encode := by
  constructor
  · exact eq_encode_of_parse?
  · rintro rfl
    exact parse?_encode wrapper

theorem exists_code_iff (code : UInt8) :
    (∃ status : CommandStatus, code = status.code) ↔ code.toNat ≤ 2 := by
  constructor
  · rintro ⟨status, rfl⟩
    cases status <;> decide
  · intro small
    have cases : code = 0 ∨ code = 1 ∨ code = 2 := by
      simp only [← UInt8.toNat_inj]
      change code.toNat = 0 ∨ code.toNat = 1 ∨ code.toNat = 2
      omega
    rcases cases with rfl | rfl | rfl
    · exact ⟨.passed, rfl⟩
    · exact ⟨.failed, rfl⟩
    · exact ⟨.phaseError, rfl⟩

theorem accepted_iff : (∃ wrapper, parse? data = some wrapper) ↔ Grammatical data := by
  constructor
  · rintro ⟨wrapper, parsed⟩
    cases eq_encode_of_parse? parsed
    refine ⟨length_encode wrapper, List.prefix_append _ _, (exists_code_iff _).mp ?_⟩
    exact ⟨wrapper.status, by simp [encode]⟩
  · rintro ⟨size, signed, code⟩
    obtain ⟨status, code⟩ := (exists_code_iff _).mpr code
    have word : Bytes.word data 0 4 = signature :=
      (Bytes.littleEndian_front_iff (by rw [size]; decide) (by decide)).mp signed
    rw [parse?, if_neg (not_or.mpr ⟨not_not.mpr size, not_not.mpr word⟩), code,
      CommandStatus.ofCode?_code, Option.map_some]
    exact ⟨_, rfl⟩

end StatusWrapper

namespace Setup

variable {data : Bytes} {setup : Setup}

theorem take_eq_encode_of_parse? (parsed : parse? data = some setup) :
    data.take encodedLength = setup.encode := by
  have long : encodedLength ≤ data.length := length_of_parse? parsed
  unfold parse? at parsed
  rw [if_neg (Nat.not_lt.mpr long)] at parsed
  cases parsed
  unfold encodedLength at long
  have value := UInt16.toNat_ofNat_of_lt' (Bytes.word_lt data 2 2)
  have index := UInt16.toNat_ofNat_of_lt' (Bytes.word_lt data 4 2)
  have length := UInt16.toNat_ofNat_of_lt' (Bytes.word_lt data 6 2)
  have first : data.take 1 = [data.getD 0 0] := Bytes.take_add_one (by omega)
  have second : data.take 2 = data.take 1 ++ [data.getD 1 0] := Bytes.take_add_one (by omega)
  have third : data.take 4 = data.take 2 ++ Bytes.littleEndian 2 (Bytes.word data 2 2) :=
    Bytes.take_add_word 2 2 (by omega)
  have fourth : data.take 6 = data.take 4 ++ Bytes.littleEndian 2 (Bytes.word data 4 2) :=
    Bytes.take_add_word 4 2 (by omega)
  calc data.take 8
      = data.take 6 ++ Bytes.littleEndian 2 (Bytes.word data 6 2) :=
        Bytes.take_add_word 6 2 (by omega)
    _ = _ := by
        simp only [fourth, third, second, first, encode, value, index, length, List.append_assoc]
        rfl

theorem parse?_eq_some_iff :
    parse? data = some setup ↔
      encodedLength ≤ data.length ∧ data.take encodedLength = setup.encode := by
  constructor
  · intro parsed
    exact ⟨length_of_parse? parsed, take_eq_encode_of_parse? parsed⟩
  · rintro ⟨-, front⟩
    rw [← List.take_append_drop encodedLength data, front]
    exact parse?_encode_append setup _

end Setup

structure Urb.MadeFor (urb : Urb) (setup : Setup) (payload : Bytes) : Prop where
  parsed : Setup.parse? urb.payload = some setup
  len : urb.len = urb.data.length
  sends : setup.direction = .toDevice →
    urb.data.length = Setup.encodedLength + payload.length ∧
      urb.data.drop Setup.encodedLength = payload
  asks : setup.direction = .toHost →
    urb.data.length = Setup.encodedLength + setup.length.toNat ∧
      ∀ byte ∈ urb.data.drop Setup.encodedLength, byte = 0

theorem Urb.madeFor_control (id : Nat) (setup : Setup) (payload : Bytes) :
    (Urb.control id setup payload).MadeFor setup payload := by
  have behind (rest : Bytes) : (setup.encode ++ rest).drop Setup.encodedLength = rest :=
    List.drop_left' setup.length_encode
  refine ⟨Setup.parse?_control id setup payload, rfl, fun toDevice => ?_, fun toHost => ?_⟩
  · simp [control, controlData, toDevice, behind]
  · simp [control, controlData, toHost, behind]

theorem encodings_read_exactly :
    (∀ data wrapper, StatusWrapper.parse? data = some wrapper ↔ data = wrapper.encode) ∧
      (∀ data, (∃ wrapper, StatusWrapper.parse? data = some wrapper) ↔
        StatusWrapper.Grammatical data) ∧
      (∀ data setup, Setup.parse? data = some setup ↔
        Setup.encodedLength ≤ data.length ∧ data.take Setup.encodedLength = setup.encode) ∧
      ∀ id setup payload, (Urb.control id setup payload).MadeFor setup payload :=
  ⟨fun _ _ => StatusWrapper.parse?_eq_some_iff, fun _ => StatusWrapper.accepted_iff,
    fun _ _ => Setup.parse?_eq_some_iff, Urb.madeFor_control⟩

end BulkOnly
