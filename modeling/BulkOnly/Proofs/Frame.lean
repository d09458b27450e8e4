import BulkOnly.Device.Completion

set_option autoImplicit false

namespace BulkOnly.Device

-- Slot, generations, limiter, events and submissions are free to differ.
structure SameSurroundings (d e : Device) : Prop where
  settings : e.settings = d.settings
  parked : e.parked = d.parked
  done : e.done = d.done
  pendingReset : e.pendingReset = d.pendingReset
  halts : e.halts = d.halts
  configuration : e.configuration = d.configuration
  descriptors : e.descriptors = d.descriptors
  statistics : e.statistics = { d.statistics with commands := e.statistics.commands }

namespace SameSurroundings

theorem refl (d : Device) : SameSurroundings d d := ⟨rfl, rfl, rfl, rfl, rfl, rfl, rfl, rfl⟩

theorem trans {d e f : Device} (first : SameSurroundings d e) (second : SameSurroundings e f) :
    SameSurroundings d f where
  settings := second.settings.trans first.settings
  parked := second.parked.trans first.parked
  done := second.done.trans first.done
  pendingReset := second.pendingReset.trans first.pendingReset
  halts := second.halts.trans first.halts
  configuration := second.configuration.trans first.configuration
  descriptors := second.descriptors.trans first.descriptors
  statistics := by rw [second.statistics, first.statistics]

theorem resets {d e : Device} (same : SameSurroundings d e) :
    e.statistics.resets = d.statistics.resets := by
  rw [same.statistics]

end SameSurroundings

theorem log_frame (d : Device) (event : Event) : SameSurroundings d (d.log event) :=
  ⟨rfl, rfl, rfl, rfl, rfl, rfl, rfl, rfl⟩

theorem complain_frame (d : Device) (about : Complaint) : SameSurroundings d (d.complain about) :=
  ⟨rfl, rfl, rfl, rfl, rfl, rfl, rfl, rfl⟩

theorem slot_frame (d : Device) (slot : Slot) : SameSurroundings d { d with slot } :=
  ⟨rfl, rfl, rfl, rfl, rfl, rfl, rfl, rfl⟩

theorem startCommand_frame (d : Device) (t : Transaction) (length : Nat) :
    SameSurroundings d (d.startCommand t length) := by
  simp only [startCommand]
  split
  · exact (slot_frame d _).trans (log_frame _ _)
  · exact ⟨rfl, rfl, rfl, rfl, rfl, rfl, rfl, rfl⟩

theorem sendData_frame (d : Device) (t : Transaction) (urb : Urb) :
    SameSurroundings d (d.sendData t urb).1 := by
  simp only [sendData]
  split
  · exact (slot_frame d _).trans (complain_frame _ _)
  · exact slot_frame d _

theorem sendStatus_frame (d : Device) (t : Transaction) (urb : Urb) :
    SameSurroundings d (d.sendStatus t urb).1 := by
  simp only [sendStatus]
  split
  · exact complain_frame d _
  · exact (slot_frame d _).trans (log_frame _ _)

theorem sendEarlyStatus_frame (d : Device) (t : Transaction) (urb : Urb) :
    SameSurroundings d (d.sendEarlyStatus t urb).1 := by
  unfold sendEarlyStatus
  split
  · exact complain_frame d _
  · dsimp only
    split
    · exact (log_frame d _).trans (sendStatus_frame _ _ _)
    · exact (log_frame d _).trans (startCommand_frame _ _ _)

theorem bulkIn_frame (d : Device) (urb : Urb) : SameSurroundings d (d.bulkIn urb).1 := by
  simp only [bulkIn]
  split
  · exact complain_frame d _
  split
  · exact complain_frame d _
  split
  · exact .refl d
  · exact sendData_frame d _ urb
  · exact sendStatus_frame d _ urb
  · exact sendEarlyStatus_frame d _ urb
  · exact complain_frame d _

theorem receiveCommand_frame (d : Device) (t : Transaction) (urb : Urb) :
    SameSurroundings d (d.receiveCommand t urb).1 := by
  unfold receiveCommand
  split
  · exact complain_frame d _
  split
  · exact complain_frame d _
  split
  · exact (slot_frame d _).trans (log_frame _ _)
  dsimp only
  split
  · exact (log_frame d _).trans (slot_frame _ _)
  · exact (log_frame d _).trans (startCommand_frame _ _ _)

theorem receiveData_frame (d : Device) (t : Transaction) (urb : Urb) :
    SameSurroundings d (d.receiveData t urb).1 := by
  simp only [receiveData]
  split
  · exact complain_frame d _
  split
  · exact startCommand_frame d _ _
  · exact slot_frame d _

theorem bulkOut_frame (d : Device) (urb : Urb) : SameSurroundings d (d.bulkOut urb).1 := by
  simp only [bulkOut]
  split
  · exact complain_frame d _
  split
  · exact complain_frame d _
  split
  · exact receiveCommand_frame d _ urb
  · exact receiveCommand_frame d _ urb
  · exact receiveData_frame d _ urb
  · exact complain_frame d _

theorem sendStatus_decides (d : Device) (t : Transaction) (urb : Urb) :
    (∃ halting, (d.sendStatus t urb).2 = .stall urb halting) ∨
      ∃ bytes, (d.sendStatus t urb).2 = .complete (urb.filled bytes) := by
  simp only [sendStatus]
  split
  · exact .inl ⟨_, rfl⟩
  · exact .inr ⟨_, rfl⟩

theorem bulkIn_decides (d : Device) (urb : Urb) :
    (∃ halting, (d.bulkIn urb).2 = .stall urb halting) ∨
      (∃ bytes, (d.bulkIn urb).2 = .complete (urb.filled bytes)) ∨
      (d.bulkIn urb).2 = .park urb := by
  simp only [bulkIn]
  split
  · exact .inl ⟨_, rfl⟩
  split
  · exact .inl ⟨_, rfl⟩
  split
  · exact .inr (.inr rfl)
  · simp only [sendData]
    split
    · exact .inl ⟨_, rfl⟩
    · exact .inr (.inl ⟨_, rfl⟩)
  · exact (sendStatus_decides d _ urb).imp_right .inl
  · unfold sendEarlyStatus
    split
    · exact .inl ⟨_, rfl⟩
    dsimp only
    split
    · exact (sendStatus_decides _ _ urb).imp_right .inl
    · exact .inr (.inr rfl)
  · exact .inl ⟨_, rfl⟩

theorem receiveCommand_decides (d : Device) (t : Transaction) (urb : Urb) :
    (∃ halting, (d.receiveCommand t urb).2 = .stall urb halting) ∨
      (d.receiveCommand t urb).2 = .complete urb := by
  unfold receiveCommand
  split
  · exact .inl ⟨_, rfl⟩
  split
  · exact .inl ⟨_, rfl⟩
  split
  · exact .inl ⟨_, rfl⟩
  dsimp only
  split <;> exact .inr rfl

theorem bulkOut_decides (d : Device) (urb : Urb) :
    (∃ halting, (d.bulkOut urb).2 = .stall urb halting) ∨ (d.bulkOut urb).2 = .complete urb := by
  simp only [bulkOut]
  split
  · exact .inl ⟨_, rfl⟩
  split
  · exact .inl ⟨_, rfl⟩
  split
  · exact receiveCommand_decides d _ urb
  · exact receiveCommand_decides d _ urb
  · simp only [receiveData]
    split
    · exact .inl ⟨_, rfl⟩
    split <;> exact .inr rfl
  · exact .inl ⟨_, rfl⟩

theorem resume_resets (d : Device) (urb : Urb) :
    (d.resume urb).statistics.resets = d.statistics.resets := by
  have resets := (bulkIn_frame d urb).resets
  unfold resume
  dsimp only
  rcases bulkIn_decides d urb with ⟨halting, stalled⟩ | ⟨bytes, completed⟩ | parked
  · rw [stalled]
    exact resets
  · rw [completed]
    exact resets
  · rw [parked]
    exact resets

theorem foldl_resume_resets (d : Device) (urbs : List Urb) :
    (urbs.foldl resume d).statistics.resets = d.statistics.resets := by
  induction urbs generalizing d with
  | nil => rfl
  | cons urb rest ih => exact (ih (d.resume urb)).trans (resume_resets d urb)

def takenBack (d : Device) (t : Transaction) (outcome : Scsi.Outcome) : Device :=
  log
    { (if outcome.retry then d.log .retrySuggested else d) with
      slot := .held (t.finished outcome).phaseAfter (t.finished outcome) }
    (.commandEnded (t.finished outcome).wrapper.tag (t.finished outcome).transferred
      (t.finished outcome).status)

theorem takenBack_frame (d : Device) (t : Transaction) (outcome : Scsi.Outcome) :
    SameSurroundings d (d.takenBack t outcome) := by
  simp only [takenBack]
  split
  · exact ((log_frame d _).trans (slot_frame _ _)).trans (log_frame _ _)
  · exact (slot_frame d _).trans (log_frame _ _)

theorem concluded_eq (d : Device) (t : Transaction) (outcome : Scsi.Outcome) :
    d.concluded t outcome =
      if (d.takenBack t outcome).resumeParked.pendingReset.isSome then
        (d.takenBack t outcome).resumeParked.finishReset .bulkOnly
      else (d.takenBack t outcome).resumeParked := rfl

end BulkOnly.Device
