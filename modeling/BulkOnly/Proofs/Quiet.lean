import BulkOnly.Proofs.Conclusion
import BulkOnly.Proofs.Run

set_option autoImplicit false

namespace BulkOnly

-- REQUEST SENSE takes no data, so it never gets as far as here. A saved state that was not taken
-- from a device may claim that it does. That is harmless as long as no read can come between two
-- parts of its data.
def Slot.TakesData (slot : Slot) : Prop :=
  ∀ t, slot = .held .dataFromHost t → t.asksForSense = false ∨ (t.offset = 0 ∧ t.declared ≤ 1)

theorem Slot.Calm.takesData {slot : Slot} (calm : slot.Calm) : slot.TakesData := by
  obtain ⟨phase, t, rfl, past⟩ := calm
  rintro other same
  cases same
  exact absurd rfl past

theorem Slot.takesData_vacant : Slot.vacant.TakesData := nofun

theorem Slot.TakesData.rewound {slot : Slot} : slot.rewound.TakesData := by
  cases slot <;> nofun

theorem Transaction.asksForSense_opened {t : Transaction} {wrapper : CommandWrapper}
    (writes : wrapper.direction = .toDevice ∧ wrapper.transferLength ≠ 0) :
    (t.opened wrapper).asksForSense = false := by
  simp [asksForSense, opened, writes.1, writes.2]

theorem Slot.TakesData.received {t next : Transaction} {data : Bytes}
    (takes : (Slot.held .dataFromHost t).TakesData) (taken : t.received? data = some next)
    (more : ¬ next.isComplete) : (Slot.held .dataFromHost next).TakesData := by
  rintro other same
  cases same
  unfold Transaction.received? at taken
  split at taken
  case isFalse => cases taken
  case isTrue fits =>
    cases taken
    have part : t.offset + data.length ≠ t.declared := fun whole => more (decide_eq_true whole)
    refine (takes t rfl).imp id fun single => ⟨?_, single.2⟩
    change t.offset + data.length = 0
    omega

namespace Device

theorem startCommand_takesData (d : Device) (t : Transaction) (length : Nat) :
    (d.startCommand t length).slot.TakesData := by
  unfold startCommand
  split
  · exact Slot.Calm.takesData ⟨_, _, rfl, Transaction.phaseAfter_ne_dataFromHost _⟩
  · exact nofun

theorem startCommand_executing {d : Device} {t : Transaction} (takes : t.asksForSense = false)
    (length : Nat) : (d.startCommand t length).slot.isExecuting = true := by
  rw [startCommand, takes]
  rfl

theorem sendStatus_takesData {d : Device} (takes : d.slot.TakesData) (t : Transaction) (urb : Urb) :
    (d.sendStatus t urb).1.slot.TakesData := by
  unfold sendStatus
  split
  · exact takes
  · exact nofun

theorem bulkIn_takesData {d : Device} (takes : d.slot.TakesData) (urb : Urb) :
    (d.bulkIn urb).1.slot.TakesData := by
  unfold bulkIn
  split
  · exact takes
  split
  · exact takes
  split
  · exact takes
  · exact (sendData_calm d _ urb).1.takesData
  · exact sendStatus_takesData takes _ urb
  · unfold sendEarlyStatus
    split
    · exact takes
    dsimp only
    split
    · exact sendStatus_takesData (d := d.log _) takes _ urb
    · exact startCommand_takesData _ _ _
  · exact takes

theorem bulkOut_takesData {d : Device} (takes : d.slot.TakesData) (urb : Urb) :
    (d.bulkOut urb).1.slot.TakesData := by
  have command (t : Transaction) : (d.receiveCommand t urb).1.slot.TakesData := by
    unfold receiveCommand
    split
    · exact takes
    split
    · exact takes
    split
    · exact nofun
    dsimp only
    split
    next writes =>
      intro other same
      cases same
      exact .inl (Transaction.asksForSense_opened writes)
    · exact startCommand_takesData _ _ _
  unfold bulkOut
  split
  · exact takes
  split
  · exact takes
  split
  · exact command _
  · exact command _
  next t held =>
    unfold receiveData
    split
    · exact takes
    next taken =>
      split
      · exact startCommand_takesData _ _ _
      next more =>
        rw [held] at takes
        exact takes.received taken more
  · exact takes

theorem sendEarlyStatus_parks {d : Device} {t : Transaction}
    (takes : t.asksForSense = false ∨ (t.offset = 0 ∧ t.declared ≤ 1)) {urb other : Urb}
    (parks : (d.sendEarlyStatus t urb).2 = .park other) :
    (d.sendEarlyStatus t urb).1.slot.isExecuting = true := by
  unfold sendEarlyStatus at parks ⊢
  by_cases early : urb.requested ≠ StatusWrapper.encodedLength
  · rw [if_pos early] at parks
    cases parks
  rw [if_neg early] at parks ⊢
  dsimp only at parks ⊢
  by_cases nothing : t.offset = 0
  · rw [if_pos nothing] at parks
    rcases sendStatus_decides (d.log (.dataCutShort t.offset t.declared))
      ((t.started 0).finished (Scsi.Outcome.good 0)) urb with
      ⟨halting, stalled⟩ | ⟨bytes, completed⟩
    · simp [stalled] at parks
    · simp [completed] at parks
  · rw [if_neg nothing]
    exact startCommand_executing (takes.resolve_right fun single => nothing single.1) t.offset

theorem bulkIn_parks {d : Device} (takes : d.slot.TakesData) {urb other : Urb}
    (parks : (d.bulkIn urb).2 = .park other) : (d.bulkIn urb).1.slot.isExecuting = true := by
  by_cases calm : d.slot.Calm
  · exact absurd parks ((bulkIn_calm calm urb).2 other)
  unfold bulkIn at parks ⊢
  by_cases wrong : urb.direction ≠ .toHost
  · rw [if_pos wrong] at parks
    cases parks
  rw [if_neg wrong] at parks ⊢
  by_cases halted : d.halts.bulkIn = true
  · rw [if_pos halted] at parks
    cases parks
  rw [if_neg halted] at parks ⊢
  cases slot : d.slot with
  | vacant => simp [slot] at parks
  | executing generation => simp [slot, Slot.isExecuting]
  | held phase t =>
    by_cases write : phase = .dataFromHost
    · subst write
      rw [slot] at parks
      exact sendEarlyStatus_parks (takes t slot) parks
    · exact absurd ⟨phase, t, slot, write⟩ calm

-- `honest` says that no state was ever restored but such as devices have saved.
structure Quiet (honest : Prop) (d : Device) : Prop where
  takesData : honest → d.slot.TakesData
  parked : honest → d.slot.generation? = none → d.parked = .empty
  pendingReset : d.slot.generation? = none → d.pendingReset = none

variable {honest : Prop}

namespace Quiet

theorem kept {d e : Device} (quiet : Quiet honest d) (slot : e.slot = d.slot)
    (parked : e.parked = d.parked) (pendingReset : e.pendingReset = d.pendingReset) :
    Quiet honest e := by
  obtain ⟨takesData, unparked, unset⟩ := quiet
  rw [← slot] at takesData unparked unset
  rw [← parked] at unparked
  rw [← pendingReset] at unset
  exact ⟨takesData, unparked, unset⟩

theorem of_task {d e : Device} (quiet : Quiet honest d) (task : SameTask d e) : Quiet honest e :=
  quiet.kept task.slot task.parked task.pendingReset

theorem of_frame {d e : Device} (quiet : Quiet honest d) (handover : Handover d e)
    (frame : SameSurroundings d e) (takesData : honest → e.slot.TakesData) : Quiet honest e := by
  have before (idle : e.slot.generation? = none) : d.slot.generation? = none := by
    cases handover with
    | kept same => exact same.generation.symm.trans idle
    | issued t idle' => exact idle'
    | gaveUp generation executing idle next submissions commands abandoned =>
      have same : e.statistics.abandoned = d.statistics.abandoned := by rw [frame.statistics]
      omega
  refine ⟨takesData, ?_, ?_⟩
  · intro sincere idle
    rw [frame.parked]
    exact quiet.parked sincere (before idle)
  · intro idle
    rw [frame.pendingReset]
    exact quiet.pendingReset (before idle)

end Quiet

theorem finishReset_quiet (d : Device) (kind : Reset) : Quiet honest (d.finishReset kind) := by
  rw [finishReset_eq]
  exact ⟨fun _ => Slot.TakesData.rewound, fun _ _ => rfl, fun _ => rfl⟩

theorem resetAs_quiet (d : Device) (kind : Reset) : Quiet honest (d.resetAs kind) :=
  finishReset_quiet d.abandon kind

theorem bulkIn_quiet {d : Device} (quiet : Quiet honest d) (urb : Urb) :
    Quiet honest (d.bulkIn urb).1 :=
  quiet.of_frame (bulkIn_handover d urb) (bulkIn_frame d urb) fun sincere =>
    bulkIn_takesData (quiet.takesData sincere) urb

theorem bulkOut_quiet {d : Device} (quiet : Quiet honest d) (urb : Urb) :
    Quiet honest (d.bulkOut urb).1 :=
  quiet.of_frame (bulkOut_handover d urb) (bulkOut_frame d urb) fun sincere =>
    bulkOut_takesData (quiet.takesData sincere) urb

structure Decided (honest : Prop) (d : Device) (disposition : Disposition) : Prop where
  quiet : Quiet honest d
  parks : honest → ∀ urb, disposition = .park urb → d.slot.isExecuting = true
  holds : ∀ urb, disposition = .hold urb → d.slot.isExecuting = true

theorem Decided.of_answered {d : Device} {urb : Urb} {disposition : Disposition}
    (quiet : Quiet honest d) (answers : disposition.Answers urb) :
    Decided honest d disposition := by
  refine ⟨quiet, ?_, ?_⟩
  · rintro - other rfl
    exact answers.elim
  · rintro other rfl
    exact answers.elim

theorem apply_quiet {d : Device} {disposition : Disposition}
    (decided : Decided honest d disposition) : Quiet honest (d.apply disposition).1 := by
  obtain ⟨quiet, parks, holds⟩ := decided
  have busy (executing : d.slot.isExecuting = true) : d.slot.generation? ≠ none := by
    rw [Slot.isExecuting_eq_isSome] at executing
    exact Option.ne_none_iff_isSome.mpr executing
  cases disposition with
  | complete urb => exact quiet.kept rfl rfl rfl
  | stall urb halting => exact quiet.kept rfl rfl rfl
  | park urb =>
    refine ⟨quiet.takesData, ?_, quiet.pendingReset⟩
    intro sincere idle
    exact absurd idle (busy (parks sincere urb rfl))
  | hold urb =>
    refine ⟨quiet.takesData, quiet.parked, ?_⟩
    intro idle
    exact absurd idle (busy (holds urb rfl))
  | reconfigure urb value => exact (resetAs_quiet d _).kept rfl rfl rfl
  | fault => exact quiet

theorem bulkOnlyReset_decided {d : Device} (quiet : Quiet honest d) (urb : Urb) :
    Decided honest (d.bulkOnlyReset urb).1 (d.bulkOnlyReset urb).2 := by
  unfold bulkOnlyReset
  dsimp only
  split
  next executing =>
    split
    · exact .of_answered (quiet.kept rfl rfl rfl) rfl
    · exact ⟨quiet.kept rfl rfl rfl, fun _ => nofun, fun _ _ => executing⟩
  next => exact .of_answered (finishReset_quiet _ _) rfl

theorem control_decided {d : Device} (quiet : Quiet honest d) (urb : Urb) :
    Decided honest (d.control urb).1 (d.control urb).2 := by
  rcases control_cases d urb with replied | ⟨e, task, -, resets⟩
  · exact .of_answered (quiet.of_task replied.task) replied.answers
  · rw [resets]
    exact bulkOnlyReset_decided (quiet.of_task task) urb

theorem bulkOut_decided {d : Device} (quiet : Quiet honest d) (urb : Urb) :
    Decided honest (d.bulkOut urb).1 (d.bulkOut urb).2 := by
  rcases bulkOut_decides d urb with ⟨halting, stalled⟩ | completed
  · rw [stalled]
    exact .of_answered (bulkOut_quiet quiet urb) rfl
  · rw [completed]
    exact .of_answered (bulkOut_quiet quiet urb) rfl

theorem bulkIn_decided {d : Device} (quiet : Quiet honest d) (urb : Urb) :
    Decided honest (d.bulkIn urb).1 (d.bulkIn urb).2 := by
  refine ⟨bulkIn_quiet quiet urb, ?_, ?_⟩
  · intro sincere other parks
    exact bulkIn_parks (quiet.takesData sincere) parks
  · intro other holds
    rcases bulkIn_decides d urb with ⟨halting, stalled⟩ | ⟨bytes, completed⟩ | parked
    · simp [stalled] at holds
    · simp [completed] at holds
    · simp [parked] at holds

theorem dispatch_quiet {d : Device} (quiet : Quiet honest d) (address : UInt8) (urb : Urb) :
    Quiet honest (d.dispatch address urb).1 := by
  unfold dispatch handle
  dsimp only
  split
  · exact apply_quiet (control_decided quiet urb)
  · exact apply_quiet (bulkOut_decided quiet urb)
  · exact apply_quiet (bulkIn_decided quiet urb)
  · have complained : Quiet honest (d.complain (.unknownEndpoint urb.id address)) :=
      quiet.kept rfl rfl rfl
    exact apply_quiet (.of_answered complained rfl)

theorem cancel_quiet {d : Device} (quiet : Quiet honest d) (id : Nat) :
    Quiet honest (d.cancel id) := by
  unfold cancel
  split
  next urb rest removed =>
    obtain ⟨before, after, split, -⟩ := Urb.Queue.remove?_split removed
    refine ⟨quiet.takesData, ?_, quiet.pendingReset⟩
    intro sincere idle
    have nothing := quiet.parked sincere idle
    rw [nothing] at split
    simp [Urb.Queue.empty] at split
  next =>
    split
    · exact quiet.kept rfl rfl rfl
    next urb waits =>
      split
      · exact ⟨quiet.takesData, quiet.parked, fun _ => rfl⟩
      · exact quiet.kept rfl rfl rfl

theorem setConfiguration_quiet {d : Device} (quiet : Quiet honest d) (value : UInt8) :
    Quiet honest (d.setConfiguration value) := by
  unfold setConfiguration
  split
  · exact resetAs_quiet d _
  · exact quiet.kept rfl rfl rfl

theorem restore_quiet {d e : Device} (quiet : Quiet honest d) {saved : SavedState}
    (sincere : honest → ∀ slot, saved.slot = .ok slot → slot.TakesData)
    (restored : d.restore saved = .ok e) : Quiet honest e := by
  obtain ⟨slot, accepted, idle, rfl⟩ := restore_eq_ok_iff.mp restored
  exact ⟨fun claim => sincere claim slot accepted, fun claim _ => quiet.parked claim idle,
    fun _ => quiet.pendingReset idle⟩

theorem operate_quiet {d : Device} (quiet : Quiet honest d) {operation : Device.Operation}
    (sincere : honest → ∀ saved slot, operation = .restore saved → saved.slot = .ok slot →
      slot.TakesData) :
    Quiet honest (d.operate operation).1 := by
  cases operation with
  | dispatch address urb => exact dispatch_quiet quiet address urb
  | cancel id => exact cancel_quiet quiet id
  | reset => exact resetAs_quiet _ _
  | setConfiguration value => exact setConfiguration_quiet quiet value
  | restore saved =>
    simp only [operate]
    split
    next restored =>
      exact restore_quiet quiet (fun claim slot => sincere claim saved slot rfl) restored
    next => exact quiet
  | _ => exact quiet.of_task (operate_task d rfl)

theorem settle_quiet {d : Device} (quiet : Quiet honest d) (command : Command)
    (completion : Completion) : Quiet honest (d.settle command completion) := by
  by_cases executing : d.slot = .executing command.generation
  · have concluded := settle_concludes completion executing
    exact ⟨fun _ => concluded.calm.takesData, fun _ _ => concluded.parked,
      fun _ => concluded.pendingReset⟩
  · rw [settle_stale completion executing]
    exact quiet.kept rfl rfl rfl

end Device

namespace System

open Device

variable {honest : Prop}

theorem durable_quiet : Durable (Quiet honest) fun _ => True where
  told _ _ quiet := quiet.kept rfl rfl rfl
  drained _ quiet := quiet.kept rfl rfl rfl
  issued _ _ _ _ := trivial
  ended _ command completion _ quiet := settle_quiet quiet command completion

theorem turn_quiet {s : System} {turn : Turn} (quiet : Quiet honest s.device)
    (sincere : honest → ∀ saved slot, turn.operation = .device (.restore saved) →
      saved.slot = .ok slot → slot.TakesData)
    (before : s.condition = .working) (after : (s.turn turn).system.condition = .working) :
    Quiet honest (s.turn turn).system.device := by
  refine (durable_quiet.turn before after quiet (fun _ _ => trivial) ?_).1
  intro operation same
  refine operate_quiet quiet ?_
  rintro claim saved slot rfl
  exact sincere claim saved slot same

end System

theorem System.play_quiet_from {start : System} {honest : Prop} (quiet : start.device.Quiet honest)
    {turns : List Turn}
    (sincere : honest → ∀ turn ∈ turns, ∀ saved slot, turn.operation = .device (.restore saved) →
      saved.slot = .ok slot → slot.TakesData)
    (working : (start.play turns).condition = .working) :
    (start.play turns).device.Quiet honest := by
  induction turns generalizing start with
  | nil => exact quiet
  | cons turn rest ih =>
    have after : (start.turn turn).system.condition = .working := working_of_play working
    have first := turn_quiet quiet (fun claim => sincere claim turn List.mem_cons_self)
      (working_of_turn after) after
    exact ih first (fun claim later member => sincere claim later (.tail turn member)) working

theorem System.play_quiet_of_sincere {settings : Settings} {location : String} {target : Target}
    {turns : List Turn}
    (working : ((create settings location target).play turns).condition = .working) :
    ((create settings location target).play turns).device.Quiet
      (∀ turn ∈ turns, ∀ saved slot, turn.operation = .device (.restore saved) →
        saved.slot = .ok slot → slot.TakesData) :=
  play_quiet_from ⟨fun _ => Slot.takesData_vacant, fun _ _ => rfl, fun _ => rfl⟩ id working

theorem Device.slot_of_save {d : Device} {state : SavedState} {slot : Slot}
    (answer : d.save = .ok state) (accepted : state.slot = .ok slot) :
    slot = .vacant ∨ slot = d.slot := by
  unfold Device.save at answer
  split at answer
  · cases answer
  cases answer
  unfold SavedState.slot at accepted
  split at accepted
  · cases accepted
    exact .inl rfl
  next saved taken =>
  obtain ⟨phase, stage, rfl, -⟩ := SavedTransaction.slot_eq_ok_iff.mp accepted
  cases slot : d.slot with
  | vacant => simp [slot, Slot.saved] at taken
  | executing generation => simp [slot, Slot.saved] at taken
  | held other t =>
    simp only [slot, Slot.saved] at taken
    split at taken
    · cases taken
    cases taken
    exact .inr (by cases phase <;> cases other <;> first | rfl | cases stage)

-- By induction on how the state came to be saved: its run restored only states of this kind.
theorem SavedState.Genuine.takesData {state : SavedState} (genuine : state.Genuine) {slot : Slot}
    (accepted : state.slot = .ok slot) : slot.TakesData := by
  induction genuine generalizing slot with
  | saved settings location target turns state restored working answer ih =>
    rcases Device.slot_of_save answer accepted with rfl | rfl
    · exact Slot.takesData_vacant
    · exact (System.play_quiet_of_sincere working).takesData
        fun turn member saved slot restores accepted => ih turn member saved restores accepted

theorem System.play_quiet {settings : Settings} {location : String} {target : Target}
    {turns : List Turn}
    (working : ((create settings location target).play turns).condition = .working) :
    ((create settings location target).play turns).device.Quiet (∀ turn ∈ turns, turn.Genuine) := by
  have quiet := play_quiet_of_sincere working
  have sincere (genuine : ∀ turn ∈ turns, turn.Genuine) (turn : Turn) (member : turn ∈ turns)
      (saved : SavedState) (slot : Slot) (restores : turn.operation = .device (.restore saved))
      (accepted : saved.slot = .ok slot) : slot.TakesData :=
    (genuine turn member saved restores).takesData accepted
  exact ⟨fun genuine => quiet.takesData (sincere genuine),
    fun genuine => quiet.parked (sincere genuine), quiet.pendingReset⟩

end BulkOnly
