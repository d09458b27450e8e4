import BulkOnly.Proofs.Quiet

set_option autoImplicit false

namespace BulkOnly

-- The host has sent part of the data, or can send a part, for a command that reads sense data.
def SavedState.Strands (saved : SavedState) : Prop :=
  ∃ t, saved.slot = .ok (.held .dataFromHost t) ∧
    t.wrapper.opcode = Transaction.requestSense ∧ t.wrapper.direction = .toHost ∧
    (0 < t.offset ∨ 2 ≤ t.declared)

theorem SavedState.strands_iff {saved : SavedState} {slot : Slot}
    (accepted : saved.slot = .ok slot) : saved.Strands ↔ ¬ slot.TakesData := by
  have bound {t : Transaction} (held : slot = .held .dataFromHost t) : t.offset ≤ t.declared := by
    subst held
    unfold SavedState.slot at accepted
    split at accepted
    · cases accepted
    · obtain ⟨phase, -, same, wellFormed, -⟩ := SavedTransaction.slot_eq_ok_iff.mp accepted
      obtain ⟨-, rfl⟩ := Slot.held.inj same
      exact wellFormed.offset_le
  constructor
  · rintro ⟨t, same, opcode, direction, part⟩ takes
    obtain rfl : slot = .held .dataFromHost t := Except.ok.inj (accepted.symm.trans same)
    rcases takes t rfl with other | ⟨start, single⟩
    · simp [Transaction.asksForSense, opcode, direction] at other
    · omega
  · intro strands
    simp only [Slot.TakesData, not_forall, not_or] at strands
    obtain ⟨t, held, asks, part⟩ := strands
    have short := bound held
    have some_declared : t.declared ≠ 0 := by omega
    simp only [Transaction.asksForSense, Bool.not_eq_false, Bool.and_eq_true, Bool.or_eq_true,
      decide_eq_true_eq] at asks
    obtain ⟨opcode, direction | nothing⟩ := asks
    · exact ⟨t, held ▸ accepted, opcode, direction, by omega⟩
    · rw [Transaction.declared, nothing] at some_declared
      exact absurd rfl some_declared

namespace System

structure AtRest (s : System) : Prop where
  working : s.condition = .working
  idle : s.device.slot.generation? = none
  parked : s.device.parked = .empty
  pendingReset : s.device.pendingReset = none
  released : s.device.submissions = []

def Orderly (s : System) : Prop :=
  s.device.slot.generation? = none → s.device.parked = .empty ∧ s.device.pendingReset = none

def restore (s : System) (saved : SavedState) : System :=
  (s.turn { operation := .device (.restore saved) }).system

theorem AtRest.restore {s : System} (rests : s.AtRest) {saved : SavedState} {slot : Slot}
    (accepted : saved.slot = .ok slot) :
    s.restore saved =
      { s with
        target := .holds
        device := { s.device.restoredTo saved slot with submissions := [], events := [] } } := by
  have restored := Device.restore_eq_ok_iff.mpr ⟨slot, accepted, rests.idle, rfl⟩
  have operated : s.device.operate (.restore saved) = (s.device.restoredTo saved slot, .done) := by
    simp only [Device.operate, restored]
  exact congrArg Report.system
    (turn_releasing_nothing rests.working rfl operated (by decide) rests.released)

structure Expects (s : System) (t : Transaction) : Prop where
  working : s.condition = .working
  slot : s.device.slot = .held .dataFromHost t
  bulkIn : s.device.halts.bulkIn = false
  bulkOut : s.device.halts.bulkOut = false
  released : s.device.submissions = []

variable {s : System} {t : Transaction}

def clearHalt (pipe : Pipe) : Turn := { operation := .device (.clearHalt pipe.address) }

theorem turn_clearHalt (working : s.condition = .working) (released : s.device.submissions = [])
    (pipe : Pipe) :
    (s.turn (clearHalt pipe)).system.condition = .working ∧
      (s.turn (clearHalt pipe)).system.device.slot = s.device.slot ∧
      (s.turn (clearHalt pipe)).system.device.halts = s.device.halts.set pipe false ∧
      (s.turn (clearHalt pipe)).system.device.submissions = [] := by
  have operated : s.device.operate (.clearHalt pipe.address) =
      (Device.log { s.device with halts := s.device.halts.set pipe false }
        (.haltCleared pipe.address), .done) := by
    simp only [Device.operate, Device.clearHalt, Pipe.ofAddress?_address]
  rw [turn_releasing_nothing working rfl operated (by decide) released]
  exact ⟨working, rfl, rfl, rfl⟩

theorem expects_clearHalts (working : s.condition = .working)
    (slot : s.device.slot = .held .dataFromHost t) (released : s.device.submissions = []) :
    (s.play [clearHalt .bulkIn, clearHalt .bulkOut]).Expects t := by
  obtain ⟨working', slot', halts, released'⟩ := turn_clearHalt working released .bulkIn
  obtain ⟨working'', slot'', halts', released''⟩ := turn_clearHalt working' released' .bulkOut
  rw [play_cons, play_cons, play_nil]
  refine ⟨working'', (slot''.trans slot').trans slot, ?_, ?_, released''⟩
  · rw [halts', halts]
    rfl
  · rw [halts']
    rfl

def sendByte (id : Nat) : Turn :=
  { operation := .device (.dispatch Pipe.bulkOut.address (.bulkOut id [0])) }

theorem Expects.sendByte (expects : s.Expects t) (room : t.offset + 2 ≤ t.declared) (id : Nat) :
    ∃ next : Transaction, (s.turn (sendByte id)).system.Expects next ∧ 0 < next.offset ∧
      next.wrapper = t.wrapper := by
  let next : Transaction :=
    { t with buffer := Bytes.overwrite t.buffer t.offset [0], offset := t.offset + 1 }
  have fits : t.offset + 1 ≤ t.declared := by omega
  have taken : t.received? (Urb.bulkOut id [0]).payload = some next := if_pos fits
  have part : next.isComplete = false := by
    have short : ¬ t.offset + 1 = t.declared := by omega
    exact decide_eq_false short
  have handled : s.device.bulkOut (.bulkOut id [0]) =
      ({ s.device with slot := .held .dataFromHost next }, .complete (.bulkOut id [0])) := by
    have direction : (Urb.bulkOut id [0]).direction = .toDevice := rfl
    simp [Device.bulkOut, direction, expects.bulkOut, expects.slot, Device.receiveData, taken, part]
  have operated : s.device.operate (.dispatch Pipe.bulkOut.address (.bulkOut id [0])) =
      (Device.finish { s.device with slot := .held .dataFromHost next } (.bulkOut id [0]) .ok,
        .dispatched .completed) := by
    simp only [Device.operate, Device.dispatch, Device.handle, Pipe.ofAddress?_address, handled,
      Device.apply]
  refine ⟨next, ?_, Nat.succ_pos _, rfl⟩
  rw [turn_releasing_nothing expects.working rfl operated (by decide) expects.released]
  exact ⟨expects.working, rfl, expects.bulkIn, expects.bulkOut, rfl⟩

-- The read is parked, but nothing executes that could release it.
theorem Expects.readStatus (expects : s.Expects t) (asks : t.asksForSense = true)
    (some_taken : 0 < t.offset) (id : Nat) :
    (s.turn (readBulk id StatusWrapper.encodedLength)).system.condition = .working ∧
      ¬ (s.turn (readBulk id StatusWrapper.encodedLength)).system.Orderly := by
  have handled : s.device.bulkIn (.bulkIn id StatusWrapper.encodedLength) =
      ((s.device.log (.dataCutShort t.offset t.declared)).startCommand t t.offset,
        .park (.bulkIn id StatusWrapper.encodedLength)) := by
    have direction : (Urb.bulkIn id StatusWrapper.encodedLength).direction = .toHost := rfl
    have exact : (Urb.bulkIn id StatusWrapper.encodedLength).requested =
        StatusWrapper.encodedLength := by simp [Urb.bulkIn, Urb.requested]
    simp [Device.bulkIn, direction, expects.bulkIn, expects.slot, Device.sendEarlyStatus, exact,
      Nat.pos_iff_ne_zero.mp some_taken]
  let answered : Device := Device.log
    { s.device.log (.dataCutShort t.offset t.declared) with
      slot := .held t.answeredSense.phaseAfter t.answeredSense }
    (.senseAnswered t.wrapper.tag)
  have locally : (s.device.log (.dataCutShort t.offset t.declared)).startCommand t t.offset =
      answered := by
    rw [Device.startCommand, if_pos asks]
  have operated : s.device.operate
      (.dispatch Pipe.bulkIn.address (.bulkIn id StatusWrapper.encodedLength)) =
      ({ answered with
        parked := s.device.parked.append (.bulkIn id StatusWrapper.encodedLength) },
        .dispatched .queued) := by
    simp only [Device.operate, Device.dispatch, Device.handle, Pipe.ofAddress?_address, handled,
      Device.apply, locally]
    rfl
  rw [turn_releasing_nothing expects.working rfl operated (by decide) expects.released]
  refine ⟨expects.working, fun orderly => ?_⟩
  have parked := congrArg Urb.Queue.toList (orderly rfl).1
  simp [Urb.Queue.empty] at parked

theorem exists_disorderly (working : s.condition = .working)
    (slot : s.device.slot = .held .dataFromHost t) (released : s.device.submissions = [])
    (opcode : t.wrapper.opcode = Transaction.requestSense)
    (direction : t.wrapper.direction = .toHost) (part : 0 < t.offset ∨ 2 ≤ t.declared) :
    ∃ turns : List Turn, (∀ turn ∈ turns, ∀ saved, turn.operation ≠ .device (.restore saved)) ∧
      (s.play turns).condition = .working ∧ ¬ (s.play turns).Orderly := by
  have expects := expects_clearHalts working slot released
  by_cases begun : 0 < t.offset
  · have asks : t.asksForSense = true := by simp [Transaction.asksForSense, opcode, direction]
    refine ⟨[clearHalt .bulkIn, clearHalt .bulkOut] ++ [readBulk 0 StatusWrapper.encodedLength],
      by simp [clearHalt, readBulk], ?_⟩
    rw [play_append]
    exact expects.readStatus asks begun 0
  · have room : t.offset + 2 ≤ t.declared := by omega
    obtain ⟨next, expects', begun', same⟩ := expects.sendByte room 0
    have asks : next.asksForSense = true := by
      simp [Transaction.asksForSense, same, opcode, direction]
    refine ⟨[clearHalt .bulkIn, clearHalt .bulkOut] ++
      [sendByte 0, readBulk 1 StatusWrapper.encodedLength],
      by simp [clearHalt, System.sendByte, readBulk], ?_⟩
    rw [play_append]
    exact expects'.readStatus asks begun' 1

theorem AtRest.slot_of_restored (rests : s.AtRest) {saved : SavedState}
    (accepted : (s.turn { operation := .device (.restore saved) }).answer = .done) :
    ∃ slot, saved.slot = .ok slot := by
  cases claimed : saved.slot with
  | ok slot => exact ⟨slot, rfl⟩
  | error flaw =>
    simp [System.turn, perform, rests.working, operate, Device.operate, Device.restore, claimed,
      release] at accepted

theorem restored_orderly_iff (rests : s.AtRest) {saved : SavedState}
    (accepted : (s.turn { operation := .device (.restore saved) }).answer = .done) :
    (∀ turns : List Turn, ((s.restore saved).play turns).condition = .working →
      ((s.restore saved).play turns).device.slot.generation? = none →
      ((s.restore saved).play turns).device.pendingReset = none) ∧
    ((∀ turns : List Turn, ((s.restore saved).play turns).condition = .working →
      (∀ turn ∈ turns, ∀ later, turn.operation = .device (.restore later) → ¬ later.Strands) →
      ((s.restore saved).play turns).Orderly) ↔ ¬ saved.Strands) := by
  obtain ⟨slot, accepted⟩ := rests.slot_of_restored accepted
  have after := rests.restore accepted
  have quiet (honest : Prop) (takes : honest → slot.TakesData) :
      (s.restore saved).device.Quiet honest := by
    rw [after]
    exact ⟨takes, fun _ _ => rests.parked, fun _ => rests.pendingReset⟩
  refine ⟨?_, ?_, ?_⟩
  · intro turns working idle
    exact (play_quiet_from (quiet False False.elim) False.elim working).pendingReset idle
  · rintro orderly ⟨t, held, opcode, direction, part⟩
    obtain rfl : slot = .held .dataFromHost t := Except.ok.inj (accepted.symm.trans held)
    obtain ⟨turns, restoreless, working, disorderly⟩ :=
      exists_disorderly (s := s.restore saved) (by rw [after]; exact rests.working)
        (by rw [after]; rfl) (by rw [after]) opcode direction part
    refine disorderly (orderly turns working ?_)
    exact fun turn member later restores => absurd restores (restoreless turn member later)
  · intro spares turns working spared idle
    have takes : slot.TakesData := not_not.mp ((saved.strands_iff accepted).not.mp spares)
    have kept := play_quiet_from (quiet True fun _ => takes)
      (fun _ turn member later slot restores accepted =>
        not_not.mp ((later.strands_iff accepted).not.mp (spared turn member later restores)))
      working
    exact ⟨kept.parked trivial idle, kept.pendingReset idle⟩

def writeSix : Transaction :=
  { wrapper := { tag := 9, transferLength := 16, blockLength := 6, block := Bytes.padded 16 [0x0a] }
    buffer := List.replicate 16 0
    offset := 4 }

def writeBegun : SavedState := { transaction := some ⟨.dataFromHost, writeSix⟩ }

theorem restored_orderly_iff_writeBegun :
    (create {} "lun0" .holds).AtRest ∧
      ((create {} "lun0" .holds).turn { operation := .device (.restore writeBegun) }).answer =
        .done ∧
      ∀ turns : List Turn, (((create {} "lun0" .holds).restore writeBegun).play turns).condition =
        .working →
        (∀ turn ∈ turns, ∀ later, turn.operation = .device (.restore later) → ¬ later.Strands) →
        (((create {} "lun0" .holds).restore writeBegun).play turns).Orderly := by
  have rests : (create {} "lun0" .holds).AtRest := ⟨rfl, rfl, rfl, rfl, rfl⟩
  have accepted : ((create {} "lun0" .holds).turn
      { operation := .device (.restore writeBegun) }).answer = .done := by decide
  have spares : ¬ writeBegun.Strands := by
    have held : writeBegun.slot = .ok (.held .dataFromHost writeSix) := by decide
    rintro ⟨t, same, opcode, -⟩
    obtain ⟨-, rfl⟩ := Slot.held.inj (Except.ok.inj (held.symm.trans same))
    exact absurd opcode (by decide)
  exact ⟨rests, accepted, (restored_orderly_iff rests accepted).2.mpr spares⟩

def senseBegun : SavedState :=
  { transaction := some
      { stage := .dataFromHost
        transaction :=
          { wrapper :=
              { tag := 9, transferLength := 18, flags := 0x80, blockLength := 6
                block := Bytes.padded 16 [0x03, 0, 0, 0, 18] }
            buffer := List.replicate 18 0
            offset := 5
            direction := .toHost } } }

theorem parked_without_command_senseBegun :
    ((create {} "lun0" .holds).turn { operation := .device (.restore senseBegun) }).answer =
        .done ∧
      (((create {} "lun0" .holds).restore senseBegun).play [readBulk 1 13]).condition = .working ∧
      (((create {} "lun0" .holds).restore senseBegun).play
        [readBulk 1 13]).device.slot.generation? = none ∧
      (((create {} "lun0" .holds).restore senseBegun).play
        [readBulk 1 13]).device.parked.toList = [.bulkIn 1 13] := by
  decide

end System

end BulkOnly
