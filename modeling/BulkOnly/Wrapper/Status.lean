import BulkOnly.Bytes

set_option autoImplicit false

namespace BulkOnly

inductive CommandStatus where
  | passed
  | failed
  | phaseError
  deriving DecidableEq, Repr

namespace CommandStatus

def code : CommandStatus → UInt8
  | .passed => 0
  | .failed => 1
  | .phaseError => 2

def ofCode? (code : UInt8) : Option CommandStatus :=
  if code = 0 then some .passed
  else if code = 1 then some .failed
  else if code = 2 then some .phaseError
  else none

@[simp] theorem ofCode?_code (status : CommandStatus) : ofCode? status.code = some status := by
  cases status <;> rfl

theorem ofCode?_eq_some_iff {code : UInt8} {status : CommandStatus} :
    ofCode? code = some status ↔ code = status.code := by
  constructor
  · intro h
    unfold ofCode? at h
    repeat' split at h
    all_goals cases h
    all_goals simpa [CommandStatus.code]
  · rintro rfl
    exact ofCode?_code status

def name : CommandStatus → String
  | .passed => "Ok"
  | .failed => "Failed"
  | .phaseError => "PhaseError"

end CommandStatus

structure StatusWrapper where
  tag : UInt32
  residue : UInt32
  status : CommandStatus
  deriving DecidableEq, Repr

namespace StatusWrapper

def signature : Nat := 0x53425355

def encodedLength : Nat := 13

def encode (wrapper : StatusWrapper) : Bytes :=
  Bytes.littleEndian 4 signature
    ++ (Bytes.littleEndian 4 wrapper.tag.toNat
    ++ (Bytes.littleEndian 4 wrapper.residue.toNat
    ++ [wrapper.status.code]))

@[simp] theorem length_encode (wrapper : StatusWrapper) :
    wrapper.encode.length = encodedLength := by
  simp [encode, encodedLength]

def parse? (data : Bytes) : Option StatusWrapper :=
  if data.length ≠ encodedLength ∨ Bytes.word data 0 4 ≠ signature then none
  else (CommandStatus.ofCode? (data.getD 12 0)).map fun status =>
    { tag := UInt32.ofNat (Bytes.word data 4 4)
      residue := UInt32.ofNat (Bytes.word data 8 4)
      status }

theorem parse?_encode (wrapper : StatusWrapper) : parse? wrapper.encode = some wrapper := by
  have found : Bytes.word ([] ++ wrapper.encode) 0 4 = signature :=
    Bytes.word_littleEndian rfl (by decide)
  have tag : Bytes.word wrapper.encode 4 4 = wrapper.tag.toNat :=
    Bytes.word_littleEndian (Bytes.length_littleEndian 4 signature) wrapper.tag.toNat_lt
  have residue : Bytes.word wrapper.encode 8 4 = wrapper.residue.toNat := by
    rw [encode, ← List.append_assoc]
    exact Bytes.word_littleEndian (by simp) wrapper.residue.toNat_lt
  have status : wrapper.encode.getD 12 0 = wrapper.status.code := by simp [encode]
  rw [List.nil_append] at found
  simp only [parse?, length_encode, found, tag, residue, status]
  simp

end StatusWrapper

end BulkOnly
