import BulkOnly.Proofs.Filling
import BulkOnly.Proofs.ParkedReads

set_option autoImplicit false

namespace BulkOnly

def Turn.send (urb : Urb) : Turn := ⟨.device (.dispatch Pipe.bulkOut.address urb), .holds⟩

structure Urb.Carries (urb : Urb) (wrapper : CommandWrapper) : Prop where
  direction : urb.direction = .toDevice
  parsed : CommandWrapper.parse urb.payload = .ok wrapper

theorem Completion.direction_ended (completion : Completion) (command : Command) :
    (completion.ended command).direction = command.direction := by
  unfold Completion.ended Completion.returned
  split <;> rfl

theorem Completion.wrapper_ended (completion : Completion) (command : Command) :
    (completion.ended command).wrapper = command.transaction.wrapper := by
  unfold Completion.ended Completion.returned
  split <;> rfl

namespace Device

structure Allows (d : Device) (wrapper : CommandWrapper) : Prop where
  writes : wrapper.direction = .toDevice
  some_data : wrapper.transferLength ≠ 0
  allowed : wrapper.transferLength ≤ d.settings.maxTransferLength

-- The device takes the wrapper of a write, and has memory for its data.
structure Admits (d : Device) (wrapper : CommandWrapper) : Prop extends d.Allows wrapper where
  room : d.makesRoom wrapper.transferLength = true

variable {d : Device} {wrapper : CommandWrapper} {sense : Scsi.Sense} {data : Bytes} {urb : Urb}

theorem bulkOut_data (slot : d.slot = .held .dataFromHost (.filling wrapper sense data))
    (running : d.halts.bulkOut = false) (direction : urb.direction = .toDevice)
    (part : data.length + urb.payload.length < wrapper.transferLength.toNat) :
    d.bulkOut urb =
      ({ d with slot := .held .dataFromHost (.filling wrapper sense (data ++ urb.payload)) },
        .complete urb) := by
  have incomplete := Nat.ne_of_lt part
  simp [bulkOut, direction, running, slot, receiveData, Transaction.received?_filling,
    if_pos (Nat.le_of_lt part), Transaction.isComplete_filling, incomplete]

theorem bulkOut_last_data (slot : d.slot = .held .dataFromHost (.filling wrapper sense data))
    (running : d.halts.bulkOut = false) (direction : urb.direction = .toDevice)
    (allows : d.Allows wrapper)
    (all : data.length + urb.payload.length = wrapper.transferLength.toNat) :
    d.bulkOut urb =
      ({ d with
        slot := .executing d.nextGeneration
        nextGeneration := d.nextGeneration + 1
        statistics.commands := d.statistics.commands + 1
        submissions := d.submissions ++
          [⟨d.nextGeneration, .writing wrapper sense (data ++ urb.payload)⟩] },
        .complete urb) := by
  have complete : (data ++ urb.payload).length = wrapper.transferLength.toNat := by
    rw [List.length_append, all]
  have declared : (Transaction.filling wrapper sense (data ++ urb.payload)).declared =
      (data ++ urb.payload).length := complete.symm
  have submits := Transaction.asksForSense_filling sense (data ++ urb.payload) allows.writes
    allows.some_data
  have decided : d.bulkOut urb =
      (d.startCommand (.filling wrapper sense (data ++ urb.payload)) (data ++ urb.payload).length,
        .complete urb) := by
    simp [bulkOut, direction, running, slot, receiveData, Transaction.received?_filling,
      if_pos (Nat.le_of_eq all), Transaction.isComplete_filling, complete, declared]
  rw [decided, startCommand, submits]
  rfl

theorem bulkOut_overrun (slot : d.slot = .held .dataFromHost (.filling wrapper sense data))
    (running : d.halts.bulkOut = false) (direction : urb.direction = .toDevice)
    (more : wrapper.transferLength.toNat < data.length + urb.payload.length) :
    d.bulkOut urb =
      (d.complain (.overrun urb.len data.length wrapper.transferLength.toNat),
        .stall urb [.bulkOut]) := by
  simp only [bulkOut, direction, running, slot, receiveData, Transaction.received?_filling,
    if_neg (Nat.not_le.mpr more)]
  rfl

theorem bulkIn_early_read (slot : d.slot = .held .dataFromHost (.filling wrapper sense data))
    (running : d.halts.bulkIn = false) (direction : urb.direction = .toHost)
    (exact : urb.requested = StatusWrapper.encodedLength) (allows : d.Allows wrapper)
    (begun : data ≠ []) :
    d.bulkIn urb =
      ({ d with
        slot := .executing d.nextGeneration
        nextGeneration := d.nextGeneration + 1
        statistics.commands := d.statistics.commands + 1
        events := d.events ++ [.dataCutShort data.length wrapper.transferLength.toNat]
        submissions := d.submissions ++
          [⟨d.nextGeneration, .writing wrapper sense data⟩] }, .park urb) := by
  have submits := Transaction.asksForSense_filling sense data allows.writes allows.some_data
  have offset : (Transaction.filling wrapper sense data).offset = data.length := rfl
  have decided : d.bulkIn urb =
      ((d.log (.dataCutShort data.length wrapper.transferLength.toNat)).startCommand
        (.filling wrapper sense data) data.length, .park urb) := by
    simp only [bulkIn, direction, running, slot, sendEarlyStatus, exact, offset,
      List.length_eq_zero_iff, begun]
    rfl
  rw [decided, startCommand, submits]
  rfl

theorem sendStatus_exact (d : Device) (t : Transaction)
    (exact : urb.requested = StatusWrapper.encodedLength) :
    d.sendStatus t urb =
      (log { d with slot := .held .ready t.rewound } (.statusSent t.statusWrapper),
        .complete (urb.filled t.statusWrapper.encode)) := by
  simp [sendStatus, exact]

theorem bulkIn_empty_read (slot : d.slot = .held .dataFromHost (.filling wrapper sense []))
    (running : d.halts.bulkIn = false) (direction : urb.direction = .toHost)
    (exact : urb.requested = StatusWrapper.encodedLength) :
    ∃ t events, d.bulkIn urb =
      ({ d with slot := .held .ready t, events }, .complete (urb.filled (StatusWrapper.encode
        ⟨wrapper.tag, wrapper.transferLength, .passed⟩))) := by
  let t : Transaction :=
    ((Transaction.filling wrapper sense []).started 0).finished (Scsi.Outcome.good 0)
  have nothing : t.moved = 0 := by
    cases towards : wrapper.direction <;>
      simp [t, Transaction.moved, Transaction.finished, Transaction.started, Transaction.filling,
        towards]
  have status : t.statusWrapper = ⟨wrapper.tag, wrapper.transferLength, .passed⟩ := by
    simp only [Transaction.statusWrapper, Transaction.residue, nothing, Nat.sub_zero]
    have declared : UInt32.ofNat t.declared = wrapper.transferLength := UInt32.ofNat_toNat ..
    rw [declared]
    rfl
  have offset : (Transaction.filling wrapper sense []).offset = 0 := rfl
  have decided : d.bulkIn urb =
      (d.log (.dataCutShort 0 wrapper.transferLength.toNat)).sendStatus t urb := by
    simp only [bulkIn, direction, running, slot, sendEarlyStatus, exact, offset]
    rfl
  rw [decided, sendStatus_exact _ _ exact, status]
  exact ⟨_, _, rfl⟩

end Device

namespace System

open Device

variable {s : System} {wrapper : CommandWrapper} {sense : Scsi.Sense} {data : Bytes} {urb : Urb}

def filling (s : System) (wrapper : CommandWrapper) (sense : Scsi.Sense) (data : Bytes)
    (urbs : List Urb) : System :=
  { s with
    target := .holds
    device := { s.device with
      slot := .held .dataFromHost (.filling wrapper sense data)
      done := ⟨s.device.done.toList ++ urbs.map (·.finished .ok)⟩
      submissions := []
      events := [] } }

def submitting (s : System) (t : Transaction) (urbs parked : List Urb) : System :=
  { s with
    target := .holds
    device := { s.device with
      slot := .executing s.device.nextGeneration
      nextGeneration := s.device.nextGeneration + 1
      parked := ⟨parked⟩
      done := ⟨s.device.done.toList ++ urbs.map (·.finished .ok)⟩
      statistics.commands := s.device.statistics.commands + 1
      submissions := []
      events := [] }
    waiting := s.waiting ++ [⟨s.device.nextGeneration, t⟩] }

def concluding (s : System) (t : Transaction) (urbs : List Urb) : System :=
  { s with
    target := .holds
    device := { s.device with
      slot := .held .ready t.rewound
      nextGeneration := s.device.nextGeneration + 1
      done := ⟨s.device.done.toList ++ urbs.map (·.finished .ok)⟩
      statistics.commands := s.device.statistics.commands + 1
      submissions := []
      events := [] } }

theorem append_finished (before urbs : List Urb) (urb : Urb) :
    Urb.Queue.append ⟨before ++ urbs.map (·.finished .ok)⟩ (urb.finished .ok) =
      ⟨before ++ (urbs ++ [urb]).map (·.finished .ok)⟩ := by
  simp [Urb.Queue.append]

theorem turn_ended (rests : s.Rests sense) (running : s.device.halts.bulkIn = false)
    (direction : urb.direction = .toHost) (exact : urb.requested = StatusWrapper.encodedLength)
    {t : Transaction} (writes : t.direction = .toDevice) (urbs : List Urb)
    (completion : Completion) :
    ∃ events, (s.submitting t urbs [urb]).turn ⟨.complete s.waiting.length completion, .holds⟩ =
      { system := s.concluding (completion.ended ⟨s.device.nextGeneration, t⟩) (urbs ++
          [urb.filled (completion.ended ⟨s.device.nextGeneration, t⟩).statusWrapper.encode])
        answer := .done, events } := by
  let command : Command := ⟨s.device.nextGeneration, t⟩
  have working : (s.submitting t urbs [urb]).condition = .working := rests.reached.working
  have found : (s.submitting t urbs [urb]).waiting[s.waiting.length]? = some command :=
    List.getElem?_concat_length
  have left : (s.submitting t urbs [urb]).waiting.eraseIdx s.waiting.length = s.waiting := by
    simp [submitting, List.eraseIdx_append_of_length_le]
  have nothing := rests.reached.no_reset_waits rests.idle
  have phase : (completion.ended command).phaseAfter = .status := by
    simp [Transaction.phaseAfter, Completion.direction_ended, command, Command.direction, writes]
  obtain ⟨events, heard⟩ := heard_eq (s.submitting t urbs [urb]).device command completion
  have executing : (s.submitting t urbs [urb]).device.slot = .executing command.generation := rfl
  have settled := settle_resumes completion executing nothing
  rw [heard, phase] at settled
  let back : Device := { (s.submitting t urbs [urb]).device with
    slot := .held .status (completion.ended command), events, parked := .empty }
  have answered : back.bulkIn urb = back.sendStatus (completion.ended command) urb := by
    simp [bulkIn, direction, back, submitting, running]
  have closed : (s.submitting t urbs [urb]).device.settle command completion =
      { (s.submitting t urbs [urb]).device with
        slot := .held .ready (completion.ended command).rewound
        parked := s.device.parked
        done := ⟨s.device.done.toList ++ (urbs ++
          [urb.filled (completion.ended command).statusWrapper.encode]).map (·.finished .ok)⟩
        events := events ++ [.statusSent (completion.ended command).statusWrapper] } := by
    rw [settled, rests.parked, ← append_finished]
    change back.resume urb = _
    rw [resume, answered, sendStatus_exact _ _ exact]
    rfl
  rw [turn_completing found working rfl, closed, left]
  exact ⟨_, rfl⟩

end System

def writeEight : CommandWrapper :=
  { tag := 9, transferLength := 8, blockLength := 6, block := Bytes.padded 16 [0x0a] }

end BulkOnly
