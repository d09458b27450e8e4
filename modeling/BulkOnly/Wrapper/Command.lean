import BulkOnly.Bytes
import BulkOnly.Pipe
import BulkOnly.Text.Number

set_option autoImplicit false

namespace BulkOnly

structure CommandWrapper where
  tag : UInt32 := 0
  transferLength : UInt32 := 0
  flags : UInt8 := 0
  lun : UInt8 := 0
  blockLength : UInt8 := 0
  block : Vector UInt8 16 := Vector.replicate 16 0
  deriving DecidableEq, Repr

namespace CommandWrapper

def signature : Nat := 0x43425355

def headerLength : Nat := 15

def encodedLength : Nat := 31

def direction (wrapper : CommandWrapper) : Direction := Direction.ofBits wrapper.flags

def command (wrapper : CommandWrapper) : Bytes :=
  wrapper.block.toList.take wrapper.blockLength.toNat

def opcode (wrapper : CommandWrapper) : UInt8 := wrapper.block[0]

def encode (wrapper : CommandWrapper) : Bytes :=
  Bytes.littleEndian 4 signature
    ++ (Bytes.littleEndian 4 wrapper.tag.toNat
    ++ (Bytes.littleEndian 4 wrapper.transferLength.toNat
    ++ ([wrapper.flags, wrapper.lun, wrapper.blockLength]
    ++ wrapper.block.toList)))

@[simp] theorem length_encode (wrapper : CommandWrapper) :
    wrapper.encode.length = encodedLength := by
  simp [encode, encodedLength]

inductive Rejection where
  | size (length : Nat)
  | signature (found : Nat)
  | lun (addressed : UInt8)
  | blockLength (found : UInt8)
  deriving DecidableEq, Repr

def invalidBlockLength : String := "invalid command block length"

def Rejection.message : Rejection → String
  | .size length => s!"CBW transfer of {length} bytes has invalid size"
  | .signature found => s!"bad CBW signature {Text.hex 8 found}"
  | .lun addressed => s!"CBW addresses unsupported LUN {addressed.toNat}"
  | .blockLength found => s!"{invalidBlockLength} {found.toNat}"

def HasValidBlockLength (wrapper : CommandWrapper) : Prop :=
  1 ≤ wrapper.blockLength.toNat ∧ wrapper.blockLength.toNat ≤ 16

instance (wrapper : CommandWrapper) : Decidable wrapper.HasValidBlockLength :=
  inferInstanceAs (Decidable (_ ∧ _))

def ofCommand? (tag transferLength : UInt32) (direction : Direction) (command : Bytes) :
    Option CommandWrapper :=
  if command.isEmpty ∨ 16 < command.length then none
  else some
    { tag, transferLength
      flags := match direction with
        | .toHost => 0x80
        | .toDevice => 0
      lun := 0
      blockLength := UInt8.ofNat command.length
      block := Bytes.padded 16 command }

-- A host may leave out block bytes past the block length; those that it sends are cleared.
def parse (data : Bytes) : Except Rejection CommandWrapper :=
  let found := Bytes.word data 0 4
  let lun := data.getD 13 0
  let blockLength := data.getD 14 0
  if data.length ≤ headerLength ∨ encodedLength < data.length then
    .error (.size data.length)
  else if found ≠ signature then
    .error (.signature found)
  else if lun &&& 0x1f ≠ 0 then
    .error (.lun (lun &&& 0x1f))
  else if blockLength = 0 ∨ 16 < blockLength then
    .error (.blockLength blockLength)
  else if data.length < headerLength + blockLength.toNat then
    .error (.size data.length)
  else .ok
    { tag := UInt32.ofNat (Bytes.word data 4 4)
      transferLength := UInt32.ofNat (Bytes.word data 8 4)
      flags := data.getD 12 0
      lun := lun
      blockLength := blockLength
      block := Bytes.padded 16 ((data.drop headerLength).take blockLength.toNat) }

end CommandWrapper

end BulkOnly
