import BulkOnly.Proofs.Isolation

set_option autoImplicit false

namespace BulkOnly

def Disposition.isStall : Disposition → Bool
  | stall .. => true
  | _ => false

namespace Device

inductive SlotAfterStall (d : Device) (address : UInt8) (urb : Urb) : Slot → Prop where
  | kept : SlotAfterStall d address urb d.slot
  | underrun (t : Transaction) (pipe : Pipe.ofAddress? address = some .bulkIn)
    (direction : urb.direction = .toHost) (held : d.slot = .held .dataToHost t)
    (tooLittle : t.remaining < urb.requested) (strict : urb.shortNotOk = true) :
    SlotAfterStall d address urb (.held .status t)
  | noMemory (wrapper : CommandWrapper) (pipe : Pipe.ofAddress? address = some .bulkOut)
    (vacant : d.slot = .vacant) (parsed : CommandWrapper.parse urb.payload = .ok wrapper)
    (refused : d.makesRoom wrapper.transferLength = false) :
    SlotAfterStall d address urb (.held .ready {})

-- What a pipe leaves of the device when it refuses a transfer, before the stall itself.
structure Refused (d : Device) (address : UInt8) (urb : Urb) (e : Device) : Prop where
  rest : e = { d with slot := e.slot, halts := e.halts, limiter := e.limiter, events := e.events }
  slot : SlotAfterStall d address urb e.slot
  bulkIn : e.halts.bulkIn = d.halts.bulkIn
  bulkOut : e.halts.bulkOut = d.halts.bulkOut

variable {d e : Device} {address : UInt8} {urb : Urb}

def Refuses (d : Device) (address : UInt8) (urb : Urb) (handled : Device × Disposition) : Prop :=
  (∃ halting, handled.2 = .stall urb halting ∧ Refused d address urb handled.1) ∨
    ∀ other halting, handled.2 ≠ .stall other halting

theorem Refuses.of_other {handled : Device × Disposition} (other : handled.2.isStall = false) :
    Refuses d address urb handled := by
  refine .inr fun moved halting stalled => ?_
  rw [stalled] at other
  cases other

theorem Refused.told (limiter : Limiter) (events : List Event) :
    Refused d address urb { d with limiter, events } := ⟨rfl, .kept, rfl, rfl⟩

theorem sendData_refuses {t : Transaction} (pipe : Pipe.ofAddress? address = some .bulkIn)
    (direction : urb.direction = .toHost) (held : d.slot = .held .dataToHost t) :
    Refuses d address urb (d.sendData t urb) := by
  unfold sendData
  split
  next short =>
    exact .inl ⟨_, rfl, rfl, .underrun t pipe direction held short.1 short.2, rfl, rfl⟩
  next => exact .of_other rfl

theorem sendStatus_refuses (d : Device) (address : UInt8) (t : Transaction) (urb : Urb) :
    Refuses d address urb (d.sendStatus t urb) := by
  unfold sendStatus
  split
  · exact .inl ⟨_, rfl, .told _ _⟩
  · exact .of_other rfl

theorem sendStatus_accepts (d : Device) (t : Transaction)
    (size : urb.requested = StatusWrapper.encodedLength) :
    (d.sendStatus t urb).2.isStall = false := by
  unfold sendStatus
  rw [if_neg (by omega)]
  rfl

theorem sendEarlyStatus_refuses (d : Device) (address : UInt8) (t : Transaction) (urb : Urb) :
    Refuses d address urb (d.sendEarlyStatus t urb) := by
  unfold sendEarlyStatus
  split
  · exact .inl ⟨_, rfl, .told _ _⟩
  next size =>
    dsimp only
    split
    · exact .of_other (sendStatus_accepts _ _ (Classical.not_not.mp size))
    · exact .of_other rfl

theorem bulkIn_refuses (pipe : Pipe.ofAddress? address = some .bulkIn) (d : Device) (urb : Urb) :
    Refuses d address urb (d.bulkIn urb) := by
  unfold bulkIn
  split
  · exact .inl ⟨_, rfl, .told _ _⟩
  next direction =>
    split
    · exact .inl ⟨_, rfl, .told _ _⟩
    split
    next => exact .of_other rfl
    next held => exact sendData_refuses pipe (Classical.not_not.mp direction) held
    next => exact sendStatus_refuses d address _ urb
    next => exact sendEarlyStatus_refuses d address _ urb
    next => exact .inl ⟨_, rfl, .told _ _⟩

-- Without memory the transaction that the device has is kept; a new one is empty.
theorem receiveCommand_refuses {t : Transaction} (pipe : Pipe.ofAddress? address = some .bulkOut)
    (ready : d.slot = .held .ready t ∨ (d.slot = .vacant ∧ t = {})) :
    Refuses d address urb (d.receiveCommand t urb) := by
  unfold receiveCommand
  split
  · exact .inl ⟨_, rfl, .told _ _⟩
  next wrapper parsed =>
    split
    · exact .inl ⟨_, rfl, .told _ _⟩
    split
    next refused =>
      refine .inl ⟨_, rfl, rfl, ?_, rfl, rfl⟩
      rcases ready with held | ⟨vacant, rfl⟩
      · change SlotAfterStall d address urb (.held .ready t)
        rw [← held]
        exact .kept
      · exact .noMemory wrapper pipe vacant parsed (by simpa using refused)
    · dsimp only
      split <;> exact .of_other rfl

theorem receiveData_refuses (d : Device) (address : UInt8) (t : Transaction) (urb : Urb) :
    Refuses d address urb (d.receiveData t urb) := by
  unfold receiveData
  split
  · exact .inl ⟨_, rfl, .told _ _⟩
  · split <;> exact .of_other rfl

theorem bulkOut_refuses (pipe : Pipe.ofAddress? address = some .bulkOut) (d : Device) (urb : Urb) :
    Refuses d address urb (d.bulkOut urb) := by
  unfold bulkOut
  split
  · exact .inl ⟨_, rfl, .told _ _⟩
  split
  · exact .inl ⟨_, rfl, .told _ _⟩
  split
  next vacant => exact receiveCommand_refuses pipe (.inr ⟨vacant, rfl⟩)
  next held => exact receiveCommand_refuses pipe (.inl held)
  next => exact receiveData_refuses d address _ urb
  next => exact .inl ⟨_, rfl, .told _ _⟩

theorem bulkOnlyReset_refuses (d : Device) (address : UInt8) (urb : Urb) :
    Refuses d address urb (d.bulkOnlyReset urb) := by
  unfold bulkOnlyReset
  dsimp only
  split
  · split
    · exact .inl ⟨_, rfl, .told _ _⟩
    · exact .of_other rfl
  · exact .of_other rfl

theorem serve_refuses (d : Device) (address : UInt8) (request : ControlRequest) (setup : Setup)
    (urb : Urb) : Refuses d address urb (d.serve request setup urb) := by
  cases request with
  | bulkOnlyReset => exact bulkOnlyReset_refuses d address urb
  | descriptor kind index language =>
    simp only [serve]
    split
    · exact .of_other rfl
    · exact .of_other rfl
    · exact .inl ⟨_, rfl, .told _ _⟩
  | configure value =>
    simp only [serve]
    split <;> exact .of_other rfl
  | maxLun | deviceStatus | haltStatus _ | haltFeature _ _ _ | remoteWakeup | configuration
  | interface | selectInterface => exact .of_other rfl

theorem Refused.of_running {event : Event}
    (refused : Refused (log { d with halts := d.halts.set .control false } event) address urb e) :
    Refused d address urb e := by
  obtain ⟨rest, slot, bulkIn, bulkOut⟩ := refused
  refine ⟨rest, ?_, bulkIn, bulkOut⟩
  generalize e.slot = after at slot
  cases slot with
  | kept => exact .kept
  | underrun t pipe direction held tooLittle strict =>
    exact .underrun t pipe direction held tooLittle strict
  | noMemory wrapper pipe vacant parsed refused =>
    exact .noMemory wrapper pipe vacant parsed refused

theorem control_refuses (d : Device) (address : UInt8) (urb : Urb) :
    Refuses d address urb (d.control urb) := by
  unfold control
  dsimp only
  split
  · exact .inl ⟨_, rfl, rfl, .kept, rfl, rfl⟩
  next setup parsed =>
    split
    · exact .inl ⟨_, rfl, rfl, .kept, rfl, rfl⟩
    next request known =>
      refine (serve_refuses _ address request setup urb).imp_left ?_
      rintro ⟨halting, stalled, refused⟩
      exact ⟨halting, stalled, refused.of_running⟩

theorem handle_refuses (d : Device) (address : UInt8) (urb : Urb) :
    Refuses d address urb (d.handle address urb) := by
  unfold handle
  split
  next => exact control_refuses d address urb
  next pipe => exact bulkOut_refuses pipe d urb
  next pipe => exact bulkIn_refuses pipe d urb
  next => exact .inl ⟨_, rfl, .told _ _⟩

structure OnlyStalls (d : Device) (address : UInt8) (urb : Urb) (e : Device) : Prop where
  rest : e = { d with
    slot := e.slot
    halts := e.halts
    done := d.done.append (urb.finished .stall)
    statistics.stalls := d.statistics.stalls + 1
    limiter := e.limiter
    events := e.events }
  slot : SlotAfterStall d address urb e.slot
  bulkIn : d.halts.bulkIn = true → e.halts.bulkIn = true
  bulkOut : d.halts.bulkOut = true → e.halts.bulkOut = true

theorem Refused.stall (refused : Refused d address urb e) (halting : List Pipe) :
    OnlyStalls d address urb (e.stall urb halting) := by
  obtain ⟨rest, slot, bulkIn, bulkOut⟩ := refused
  have raised (pipe : Pipe) (halted : e.halts.get pipe = true) :
      (e.halts.raise halting).get pipe = true := by
    rw [Halts.get_raise, halted]
    rfl
  refine ⟨?_, slot, ?_, ?_⟩
  · rw [rest]
    rfl
  · intro halted
    exact raised .bulkIn (bulkIn.trans halted)
  · intro halted
    exact raised .bulkOut (bulkOut.trans halted)

theorem apply_stalled_iff {d : Device} {disposition : Disposition} :
    (d.apply disposition).2 = .stalled ↔ ∃ urb halting, disposition = .stall urb halting := by
  cases disposition <;> simp [apply]

theorem OnlyStalls.told (stalls : OnlyStalls d address urb e) (nothing : d.submissions = []) :
    OnlyStalls d address urb { e with submissions := [], events := [] } := by
  obtain ⟨rest, slot, bulkIn, bulkOut⟩ := stalls
  refine ⟨?_, slot, bulkIn, bulkOut⟩
  rw [rest, ← nothing]

theorem dispatch_stalls (stalled : (d.dispatch address urb).2 = .stalled) :
    OnlyStalls d address urb (d.dispatch address urb).1 := by
  unfold dispatch at stalled ⊢
  obtain ⟨other, halting, stalls⟩ := apply_stalled_iff.mp stalled
  rcases handle_refuses d address urb with ⟨halting', same, refused⟩ | never
  · dsimp only
    rw [same]
    exact refused.stall halting'
  · exact absurd stalls (never other halting)

end Device

namespace System

structure OnlyStalls (s : System) (address : UInt8) (urb : Urb) (report : Report) : Prop where
  submitted : report.submitted = []
  waiting : report.system.waiting = s.waiting
  condition : report.system.condition = s.condition
  device : s.device.OnlyStalls address urb report.system.device

theorem stall_only {s : System} (reached : s.Reached) (address : UInt8) (urb : Urb)
    (target : Target)
    (stalled : (s.turn ⟨.device (.dispatch address urb), target⟩).answer = .dispatched .stalled) :
    s.OnlyStalls address urb (s.turn ⟨.device (.dispatch address urb), target⟩) := by
  have released := reached.released
  obtain ⟨-, -, -, -, -, working⟩ := reached
  have dispatched := dispatch_of_answer working stalled
  have stalls := Device.dispatch_stalls dispatched
  have nothing : (s.device.dispatch address urb).1.submissions = [] :=
    (congrArg Device.submissions stalls.rest).trans released
  rw [turn_dispatch working (by rw [dispatched]; decide) nothing, dispatched]
  exact ⟨rfl, rfl, rfl, stalls.told released⟩

def threeOfFour : List Turn :=
  [sendReadSix 1,
    { operation := .complete 0
        { data := [1, 2, 3], ending := .ended Scsi.Status.good (some 3) false } }]

def strictRead : Urb := { Urb.bulkIn 2 4 with shortNotOk := true }

theorem stall_only_threeOfFour :
    ((create {} "lun0" .holds).play threeOfFour).Reached ∧
      (((create {} "lun0" .holds).play threeOfFour).turn
        ⟨.device (.dispatch 0x81 strictRead), .holds⟩).answer = .dispatched .stalled ∧
      ((create {} "lun0" .holds).play threeOfFour).OnlyStalls 0x81 strictRead
        (((create {} "lun0" .holds).play threeOfFour).turn
          ⟨.device (.dispatch 0x81 strictRead), .holds⟩) := by
  have reached : ((create {} "lun0" .holds).play threeOfFour).Reached :=
    ⟨{}, "lun0", .holds, threeOfFour, rfl, by decide⟩
  exact ⟨reached, by decide, stall_only reached 0x81 strictRead .holds (by decide)⟩

end System

end BulkOnly
