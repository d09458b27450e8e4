import BulkOnly.Proofs.Frame
import BulkOnly.Proofs.Reset
import BulkOnly.Proofs.Task

set_option autoImplicit false

namespace BulkOnly

def Slot.generation? : Slot → Option Nat
  | .executing generation => some generation
  | .vacant | .held .. => none

@[simp] theorem Slot.generation?_rewound (slot : Slot) :
    slot.rewound.generation? = slot.generation? := by
  cases slot <;> rfl

theorem Slot.generation?_eq_some_iff {slot : Slot} {generation : Nat} :
    slot.generation? = some generation ↔ slot = .executing generation := by
  cases slot <;> simp [generation?]

theorem Slot.isExecuting_eq_isSome (slot : Slot) : slot.isExecuting = slot.generation?.isSome := by
  cases slot <;> rfl

theorem SavedState.idle_of_slot {saved : SavedState} {slot : Slot}
    (accepted : saved.slot = .ok slot) : slot.generation? = none := by
  unfold SavedState.slot at accepted
  split at accepted
  · cases accepted
    rfl
  · obtain ⟨phase, -, rfl, -⟩ := SavedTransaction.slot_eq_ok_iff.mp accepted
    rfl

namespace Device

structure SameCommand (d e : Device) : Prop where
  generation : e.slot.generation? = d.slot.generation?
  next : e.nextGeneration = d.nextGeneration
  submissions : e.submissions = d.submissions
  commands : e.statistics.commands = d.statistics.commands
  abandoned : e.statistics.abandoned = d.statistics.abandoned
  reclaimed : e.statistics.reclaimed = d.statistics.reclaimed

theorem SameCommand.refl (d : Device) : SameCommand d d := ⟨rfl, rfl, rfl, rfl, rfl, rfl⟩

theorem SameCommand.trans {d e f : Device} (first : SameCommand d e) (second : SameCommand e f) :
    SameCommand d f where
  generation := second.generation.trans first.generation
  next := second.next.trans first.next
  submissions := second.submissions.trans first.submissions
  commands := second.commands.trans first.commands
  abandoned := second.abandoned.trans first.abandoned
  reclaimed := second.reclaimed.trans first.reclaimed

-- What an operation can do about the commands of a device.
inductive Handover (d e : Device) : Prop where
  | kept (same : SameCommand d e)
  | issued (t : Transaction) (idle : d.slot.generation? = none)
    (slot : e.slot = .executing d.nextGeneration)
    (next : e.nextGeneration = d.nextGeneration + 1)
    (submissions : e.submissions = d.submissions ++ [⟨d.nextGeneration, t⟩])
    (commands : e.statistics.commands = d.statistics.commands + 1)
    (abandoned : e.statistics.abandoned = d.statistics.abandoned)
    (reclaimed : e.statistics.reclaimed = d.statistics.reclaimed)
  | gaveUp (generation : Nat) (slot : d.slot = .executing generation)
    (idle : e.slot.generation? = none)
    (next : e.nextGeneration = d.nextGeneration)
    (submissions : e.submissions = d.submissions)
    (commands : e.statistics.commands = d.statistics.commands)
    (abandoned : e.statistics.abandoned = d.statistics.abandoned + 1)
    (reclaimed : e.statistics.reclaimed = d.statistics.reclaimed)

namespace Handover

theorem after_kept {d e f : Device} (first : SameCommand d e) (second : Handover e f) :
    Handover d f := by
  obtain ⟨generation, next, submissions, commands, abandoned, reclaimed⟩ := first
  cases second with
  | kept same =>
    exact .kept (.trans ⟨generation, next, submissions, commands, abandoned, reclaimed⟩ same)
  | issued t idle' slot' next' submissions' commands' abandoned' reclaimed' =>
    refine .issued t (generation ▸ idle') ?_ ?_ ?_ ?_ ?_ ?_
    · rw [slot', next]
    · rw [next', next]
    · rw [submissions', submissions, next]
    · rw [commands', commands]
    · rw [abandoned', abandoned]
    · rw [reclaimed', reclaimed]
  | gaveUp g slot' idle' next' submissions' commands' abandoned' reclaimed' =>
    have executing : d.slot = .executing g := by
      rw [slot'] at generation
      exact Slot.generation?_eq_some_iff.mp generation.symm
    refine .gaveUp g executing idle' ?_ ?_ ?_ ?_ ?_
    · rw [next', next]
    · rw [submissions', submissions]
    · rw [commands', commands]
    · rw [abandoned', abandoned]
    · rw [reclaimed', reclaimed]

theorem then_kept {d e f : Device} (first : Handover d e) (second : SameCommand e f) :
    Handover d f := by
  obtain ⟨generation', next', submissions', commands', abandoned', reclaimed'⟩ := second
  cases first with
  | kept same =>
    exact .kept
      (same.trans ⟨generation', next', submissions', commands', abandoned', reclaimed'⟩)
  | issued t idle slot next submissions commands abandoned reclaimed =>
    have executing : f.slot = .executing d.nextGeneration := by
      rw [slot] at generation'
      exact Slot.generation?_eq_some_iff.mp generation'
    refine .issued t idle executing ?_ ?_ ?_ ?_ ?_
    · rw [next', next]
    · rw [submissions', submissions]
    · rw [commands', commands]
    · rw [abandoned', abandoned]
    · rw [reclaimed', reclaimed]
  | gaveUp g slot idle next submissions commands abandoned reclaimed =>
    refine .gaveUp g slot (generation'.trans idle) ?_ ?_ ?_ ?_ ?_
    · rw [next', next]
    · rw [submissions', submissions]
    · rw [commands', commands]
    · rw [abandoned', abandoned]
    · rw [reclaimed', reclaimed]

end Handover

theorem held_sameCommand {d : Device} (idle : d.slot.generation? = none) (phase : Phase)
    (t : Transaction) : SameCommand d { d with slot := .held phase t } :=
  ⟨idle.symm, rfl, rfl, rfl, rfl, rfl⟩

theorem SameTask.sameCommand {d e : Device} (task : SameTask d e) : SameCommand d e :=
  ⟨congrArg Slot.generation? task.slot, task.next, task.submissions, task.commands,
    task.abandoned, task.reclaimed⟩

theorem log_sameCommand (d : Device) (event : Event) : SameCommand d (d.log event) :=
  (log_task d event).sameCommand

theorem complain_sameCommand (d : Device) (about : Complaint) : SameCommand d (d.complain about) :=
  (complain_task d about).sameCommand

theorem finishReset_sameCommand (d : Device) (kind : Reset) :
    SameCommand d (d.finishReset kind) := by
  rw [finishReset_eq]
  exact ⟨Slot.generation?_rewound d.slot, rfl, rfl, rfl, rfl, rfl⟩

theorem startCommand_handover {d : Device} (idle : d.slot.generation? = none) (t : Transaction)
    (length : Nat) : Handover d (d.startCommand t length) := by
  simp only [startCommand]
  split
  · exact .kept ((held_sameCommand idle _ _).trans (log_sameCommand _ _))
  · exact .issued (t.started length) idle rfl rfl rfl rfl rfl rfl

theorem sendData_sameCommand {d : Device} (idle : d.slot.generation? = none) (t : Transaction)
    (urb : Urb) : SameCommand d (d.sendData t urb).1 := by
  simp only [sendData]
  split
  · exact (held_sameCommand idle _ _).trans (complain_sameCommand _ _)
  · exact held_sameCommand idle _ _

theorem sendStatus_sameCommand {d : Device} (idle : d.slot.generation? = none) (t : Transaction)
    (urb : Urb) : SameCommand d (d.sendStatus t urb).1 := by
  simp only [sendStatus]
  split
  · exact complain_sameCommand d _
  · exact (held_sameCommand idle _ _).trans (log_sameCommand _ _)

theorem sendEarlyStatus_handover {d : Device} (idle : d.slot.generation? = none) (t : Transaction)
    (urb : Urb) : Handover d (d.sendEarlyStatus t urb).1 := by
  unfold sendEarlyStatus
  split
  · exact .kept (complain_sameCommand d _)
  dsimp only
  split
  · exact .kept ((log_sameCommand d _).trans (sendStatus_sameCommand (d := d.log _) idle _ urb))
  · exact .after_kept (log_sameCommand d _) (startCommand_handover (d := d.log _) idle t _)

theorem bulkIn_handover (d : Device) (urb : Urb) : Handover d (d.bulkIn urb).1 := by
  simp only [bulkIn]
  split
  · exact .kept (complain_sameCommand d _)
  split
  · exact .kept (complain_sameCommand d _)
  split
  next => exact .kept (.refl d)
  next held => exact .kept (sendData_sameCommand (by rw [held]; rfl) _ urb)
  next held => exact .kept (sendStatus_sameCommand (by rw [held]; rfl) _ urb)
  next held => exact sendEarlyStatus_handover (by rw [held]; rfl) _ urb
  next => exact .kept (complain_sameCommand d _)

theorem receiveCommand_handover {d : Device} (idle : d.slot.generation? = none) (t : Transaction)
    (urb : Urb) : Handover d (d.receiveCommand t urb).1 := by
  unfold receiveCommand
  split
  · exact .kept (complain_sameCommand d _)
  split
  · exact .kept (complain_sameCommand d _)
  split
  · exact .kept ((held_sameCommand idle _ _).trans (log_sameCommand _ _))
  dsimp only
  split
  · exact .kept ((log_sameCommand d _).trans (held_sameCommand (d := d.log _) idle _ _))
  · exact .after_kept (log_sameCommand d _) (startCommand_handover (d := d.log _) idle _ _)

theorem receiveData_handover {d : Device} (idle : d.slot.generation? = none) (t : Transaction)
    (urb : Urb) : Handover d (d.receiveData t urb).1 := by
  simp only [receiveData]
  split
  · exact .kept (complain_sameCommand d _)
  split
  · exact startCommand_handover idle _ _
  · exact .kept (held_sameCommand idle _ _)

theorem bulkOut_handover (d : Device) (urb : Urb) : Handover d (d.bulkOut urb).1 := by
  simp only [bulkOut]
  split
  · exact .kept (complain_sameCommand d _)
  split
  · exact .kept (complain_sameCommand d _)
  split
  next held => exact receiveCommand_handover (by rw [held]; rfl) _ urb
  next held => exact receiveCommand_handover (by rw [held]; rfl) _ urb
  next held => exact receiveData_handover (by rw [held]; rfl) _ urb
  next => exact .kept (complain_sameCommand d _)

theorem abandon_handover (d : Device) : Handover d d.abandon := by
  simp only [abandon]
  split
  next generation executing => exact .gaveUp generation executing rfl rfl rfl rfl rfl rfl
  next => exact .kept (.refl d)

theorem resetAs_handover (d : Device) (kind : Reset) : Handover d (d.resetAs kind) :=
  (abandon_handover d).then_kept (finishReset_sameCommand _ kind)

theorem bulkOnlyReset_sameCommand (d : Device) (urb : Urb) :
    SameCommand d (d.bulkOnlyReset urb).1 := by
  simp only [bulkOnlyReset]
  split
  · split
    · exact (log_sameCommand d _).trans (complain_sameCommand _ _)
    · exact (log_sameCommand d _).trans (log_sameCommand _ _)
  · exact (log_sameCommand d _).trans (finishReset_sameCommand _ _)

theorem control_sameCommand (d : Device) (urb : Urb) : SameCommand d (d.control urb).1 := by
  rcases control_cases d urb with replied | ⟨e, task, -, resets⟩
  · exact replied.task.sameCommand
  · rw [resets]
    exact task.sameCommand.trans (bulkOnlyReset_sameCommand e urb)

theorem apply_sameCommand (d : Device) {disposition : Disposition}
    (settled : ∀ urb value, disposition ≠ .reconfigure urb value) :
    SameCommand d (d.apply disposition).1 := by
  cases disposition with
  | reconfigure urb value => exact absurd rfl (settled urb value)
  | fault => exact .refl d
  | _ => exact ⟨rfl, rfl, rfl, rfl, rfl, rfl⟩

theorem apply_handover (d : Device) (disposition : Disposition) :
    Handover d (d.apply disposition).1 := by
  cases disposition with
  | reconfigure urb value =>
    exact (resetAs_handover d _).then_kept ⟨rfl, rfl, rfl, rfl, rfl, rfl⟩
  | _ => exact .kept (apply_sameCommand d nofun)

theorem dispatch_handover (d : Device) (address : UInt8) (urb : Urb) :
    Handover d (d.dispatch address urb).1 := by
  simp only [dispatch, handle]
  split
  · exact .after_kept (control_sameCommand d urb) (apply_handover _ _)
  · refine (bulkOut_handover d urb).then_kept (apply_sameCommand _ ?_)
    rcases bulkOut_decides d urb with ⟨halting, stalled⟩ | completed
    · rw [stalled]
      nofun
    · rw [completed]
      nofun
  · refine (bulkIn_handover d urb).then_kept (apply_sameCommand _ ?_)
    rcases bulkIn_decides d urb with ⟨halting, stalled⟩ | ⟨bytes, completed⟩ | parked
    · rw [stalled]
      nofun
    · rw [completed]
      nofun
    · rw [parked]
      nofun
  · exact .after_kept (complain_sameCommand d _) (apply_handover _ _)

theorem setConfiguration_handover (d : Device) (value : UInt8) :
    Handover d (d.setConfiguration value) := by
  simp only [setConfiguration]
  split
  · exact resetAs_handover d _
  · exact .kept ⟨rfl, rfl, rfl, rfl, rfl, rfl⟩

theorem cancel_sameCommand (d : Device) (id : Nat) : SameCommand d (d.cancel id) := by
  simp only [cancel]
  split
  · exact ⟨rfl, rfl, rfl, rfl, rfl, rfl⟩
  split
  · exact log_sameCommand d _
  split
  · exact ⟨rfl, rfl, rfl, rfl, rfl, rfl⟩
  · exact log_sameCommand d _

theorem restore_eq_ok_iff {d e : Device} {saved : SavedState} :
    d.restore saved = .ok e ↔
      ∃ slot, saved.slot = .ok slot ∧ d.slot.generation? = none ∧ e = d.restoredTo saved slot := by
  simp only [restore]
  split
  next flaw refused => simp [refused]
  next slot accepted =>
    rw [Slot.isExecuting_eq_isSome]
    cases executing : d.slot.generation? with
    | none => simp [accepted, eq_comm]
    | some generation => simp

theorem operate_handover (d : Device) (operation : Device.Operation) :
    Handover d (d.operate operation).1 := by
  cases operation with
  | dispatch address urb => exact dispatch_handover d address urb
  | cancel id => exact .kept (cancel_sameCommand d id)
  | reset => exact .after_kept (log_sameCommand d _) (resetAs_handover _ _)
  | setConfiguration value => exact setConfiguration_handover d value
  | restore saved =>
    simp only [operate]
    split
    next restored =>
      obtain ⟨slot, accepted, idle, rfl⟩ := restore_eq_ok_iff.mp restored
      have rested := SavedState.idle_of_slot accepted
      exact .kept ⟨rested.trans idle.symm, rfl, rfl, rfl, rfl, rfl⟩
    next => exact .kept (.refl d)
  | _ => exact .kept (operate_task d rfl).sameCommand

end Device

end BulkOnly
