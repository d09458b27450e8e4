import BulkOnly.Scsi.Outcome
import BulkOnly.Scsi.Sense
import BulkOnly.Wrapper.Command
import BulkOnly.Wrapper.Status

set_option autoImplicit false

namespace BulkOnly

inductive Phase where
  | ready
  | dataFromHost
  | dataToHost
  | status
  deriving DecidableEq, Repr

-- `length` is what the command was given to move, `transferred` what it did move;
-- `offset` counts the bytes of the buffer that have passed between host and device.
structure Transaction where
  wrapper : CommandWrapper := {}
  buffer : Bytes := []
  offset : Nat := 0
  direction : Direction := .toDevice
  length : Nat := 0
  status : Scsi.Status := Scsi.Status.good
  transferred : Nat := 0
  phaseError : Bool := false
  sense : Scsi.Sense := Scsi.Sense.zero
  deriving DecidableEq, Repr

namespace Transaction

def declared (t : Transaction) : Nat := t.wrapper.transferLength.toNat

structure WellFormed (t : Transaction) : Prop where
  buffer_length : t.buffer.length = t.declared
  offset_le : t.offset ≤ t.declared
  transferred_le : t.transferred ≤ t.length
  length_le : t.length ≤ t.declared

theorem wellFormed_empty : WellFormed {} := ⟨rfl, Nat.le_refl _, Nat.le_refl _, Nat.le_refl _⟩

-- Only the sense data outlives the transaction before.
def opened (t : Transaction) (wrapper : CommandWrapper) : Transaction :=
  { wrapper
    buffer := List.replicate wrapper.transferLength.toNat 0
    direction := wrapper.direction
    sense := t.sense }

theorem wellFormed_opened (t : Transaction) (wrapper : CommandWrapper) :
    (t.opened wrapper).WellFormed :=
  ⟨List.length_replicate, Nat.zero_le _, Nat.le_refl _, Nat.zero_le _⟩

def received? (t : Transaction) (data : Bytes) : Option Transaction :=
  if t.offset + data.length ≤ t.declared then
    some { t with
      buffer := Bytes.overwrite t.buffer t.offset data
      offset := t.offset + data.length }
  else none

theorem WellFormed.received {t next : Transaction} {data : Bytes} (well : t.WellFormed)
    (taken : t.received? data = some next) : next.WellFormed := by
  unfold received? at taken
  split at taken
  case isTrue fits =>
    cases taken
    have room : t.offset + data.length ≤ t.buffer.length := by
      rw [well.buffer_length]
      exact fits
    exact ⟨(Bytes.length_overwrite room).trans well.buffer_length, fits,
      well.transferred_le, well.length_le⟩
  case isFalse => cases taken

def isComplete (t : Transaction) : Bool := t.offset = t.declared

def started (t : Transaction) (length : Nat) : Transaction :=
  { t with
    length
    status := Scsi.Status.good
    transferred := 0
    phaseError := false
    sense := Scsi.Sense.zero }

theorem WellFormed.started {t : Transaction} {length : Nat} (well : t.WellFormed)
    (le : length ≤ t.declared) : (t.started length).WellFormed :=
  ⟨well.buffer_length, well.offset_le, Nat.zero_le _, le⟩

def phaseAfter (t : Transaction) : Phase :=
  if t.direction = .toHost ∧ 0 < t.declared then .dataToHost else .status

def finished (t : Transaction) (outcome : Scsi.Outcome) : Transaction :=
  { t with
    offset := if t.direction = .toHost then 0 else t.offset
    status := outcome.status
    transferred := min outcome.transferred t.length
    phaseError := t.length < outcome.transferred
    sense := if outcome.status.isGood then Scsi.Sense.zero else t.sense }

theorem WellFormed.finished {t : Transaction} (well : t.WellFormed) (outcome : Scsi.Outcome) :
    (t.finished outcome).WellFormed := by
  refine ⟨well.buffer_length, ?_, Nat.min_le_right _ _, well.length_le⟩
  change (if t.direction = .toHost then 0 else t.offset) ≤ t.declared
  split
  · exact Nat.zero_le _
  · exact well.offset_le

def requestSense : UInt8 := 0x03

def asksForSense (t : Transaction) : Bool :=
  t.wrapper.opcode = requestSense &&
    (t.wrapper.direction = .toHost || t.wrapper.transferLength = 0)

def reportedSense (t : Transaction) : Scsi.Sense :=
  if t.sense = Scsi.Sense.zero then Scsi.Sense.noSense else t.sense

def senseAnswer (t : Transaction) : Bytes :=
  t.reportedSense.toList.take (min t.declared t.wrapper.block[4].toNat)

theorem length_senseAnswer_le (t : Transaction) : t.senseAnswer.length ≤ t.declared := by
  simp only [senseAnswer, List.length_take]
  omega

def answeredSense (t : Transaction) : Transaction :=
  { t with
    buffer := Bytes.overwrite t.buffer 0 t.senseAnswer
    offset := 0
    direction := .toHost
    length := t.senseAnswer.length
    status := Scsi.Status.good
    transferred := t.senseAnswer.length
    phaseError := false
    sense := Scsi.Sense.zero }

theorem WellFormed.answeredSense {t : Transaction} (well : t.WellFormed) :
    t.answeredSense.WellFormed := by
  have short := t.length_senseAnswer_le
  have room : 0 + t.senseAnswer.length ≤ t.buffer.length := by
    rw [well.buffer_length]
    omega
  exact ⟨(Bytes.length_overwrite room).trans well.buffer_length, Nat.zero_le _,
    Nat.le_refl _, short⟩

def remaining (t : Transaction) : Nat := min t.transferred t.buffer.length - t.offset

def chunk (t : Transaction) (room : Nat) : Bytes :=
  (t.buffer.drop t.offset).take (min t.remaining room)

theorem length_chunk (t : Transaction) (room : Nat) :
    (t.chunk room).length = min t.remaining room := by
  simp only [chunk, List.length_take, List.length_drop, remaining]
  omega

def advanced (t : Transaction) (count : Nat) : Transaction :=
  { t with offset := t.offset + count }

theorem WellFormed.advanced {t : Transaction} (well : t.WellFormed) (room : Nat) :
    (t.advanced (t.chunk room).length).WellFormed := by
  have bound := well.transferred_le
  have short := well.length_le
  have start := well.offset_le
  refine ⟨well.buffer_length, ?_, well.transferred_le, well.length_le⟩
  change t.offset + (t.chunk room).length ≤ t.declared
  rw [length_chunk, remaining]
  omega

-- How many bytes count as moved: for a failed write no more than its command took.
def moved (t : Transaction) : Nat :=
  match t.direction with
  | .toHost => t.offset
  | .toDevice => if t.status.isGood then t.offset else min t.offset t.transferred

def residue (t : Transaction) : Nat := t.declared - t.moved

theorem residue_le (t : Transaction) : t.residue ≤ t.declared := Nat.sub_le _ _

def commandStatus (t : Transaction) : CommandStatus :=
  if t.phaseError then .phaseError
  else if t.status.isGood then .passed
  else .failed

def statusWrapper (t : Transaction) : StatusWrapper :=
  { tag := t.wrapper.tag
    residue := UInt32.ofNat t.residue
    status := t.commandStatus }

-- The residue is at most a 32-bit length, so writing it as a word loses nothing.
theorem toNat_residue_statusWrapper (t : Transaction) :
    t.statusWrapper.residue.toNat = t.residue := by
  have bound := t.residue_le
  have word := t.wrapper.transferLength.toNat_lt
  simp only [declared] at bound
  simp only [statusWrapper, UInt32.toNat_ofNat']
  omega

def rewound (t : Transaction) : Transaction := { t with offset := 0 }

theorem WellFormed.rewound {t : Transaction} (well : t.WellFormed) : t.rewound.WellFormed :=
  ⟨well.buffer_length, Nat.zero_le _, well.transferred_le, well.length_le⟩

end Transaction

end BulkOnly
