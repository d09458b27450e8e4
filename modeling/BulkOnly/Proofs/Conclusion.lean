import BulkOnly.Proofs.Handover

set_option autoImplicit false

namespace BulkOnly

-- Only a device that expects data from the host can start a command on a read.
def Slot.Calm (slot : Slot) : Prop := ∃ phase t, slot = .held phase t ∧ phase ≠ .dataFromHost

theorem Slot.Calm.idle {slot : Slot} (calm : slot.Calm) : slot.generation? = none := by
  obtain ⟨phase, t, rfl, -⟩ := calm
  rfl

theorem Slot.Calm.rewound {slot : Slot} (calm : slot.Calm) : slot.rewound.Calm := by
  obtain ⟨phase, t, rfl, -⟩ := calm
  exact ⟨.ready, t.rewound, rfl, nofun⟩

theorem Transaction.phaseAfter_ne_dataFromHost (t : Transaction) :
    t.phaseAfter ≠ .dataFromHost := by
  unfold phaseAfter
  split <;> nofun

namespace Device

structure StaysCalm (d e : Device) : Prop where
  calm : e.slot.Calm
  same : SameCommand d e
  parked : e.parked = d.parked
  pendingReset : e.pendingReset = d.pendingReset

namespace StaysCalm

theorem of_frame {d e : Device} (calm : e.slot.Calm) (same : SameCommand d e)
    (frame : SameSurroundings d e) : StaysCalm d e :=
  ⟨calm, same, frame.parked, frame.pendingReset⟩

theorem trans {d e f : Device} (first : StaysCalm d e) (second : StaysCalm e f) :
    StaysCalm d f where
  calm := second.calm
  same := first.same.trans second.same
  parked := second.parked.trans first.parked
  pendingReset := second.pendingReset.trans first.pendingReset

end StaysCalm

theorem sendData_calm (d : Device) (t : Transaction) (urb : Urb) :
    (d.sendData t urb).1.slot.Calm ∧ ∀ other, (d.sendData t urb).2 ≠ .park other := by
  unfold sendData
  split
  · exact ⟨⟨.status, t, rfl, nofun⟩, nofun⟩
  · refine ⟨⟨_, _, rfl, ?_⟩, nofun⟩
    split <;> nofun

theorem sendStatus_calm {d : Device} (calm : d.slot.Calm) (t : Transaction) (urb : Urb) :
    (d.sendStatus t urb).1.slot.Calm ∧ ∀ other, (d.sendStatus t urb).2 ≠ .park other := by
  unfold sendStatus
  split
  · exact ⟨calm, nofun⟩
  · exact ⟨⟨.ready, t.rewound, rfl, nofun⟩, nofun⟩

theorem bulkIn_calm {d : Device} (calm : d.slot.Calm) (urb : Urb) :
    StaysCalm d (d.bulkIn urb).1 ∧ ∀ other, (d.bulkIn urb).2 ≠ .park other := by
  obtain ⟨phase, t, held, past⟩ := calm
  have calm : d.slot.Calm := ⟨phase, t, held, past⟩
  have frame := bulkIn_frame d urb
  have after : SameCommand d (d.bulkIn urb).1 ∧ (d.bulkIn urb).1.slot.Calm ∧
      ∀ other, (d.bulkIn urb).2 ≠ .park other := by
    unfold bulkIn
    split
    · exact ⟨complain_sameCommand d _, calm, nofun⟩
    split
    · exact ⟨complain_sameCommand d _, calm, nofun⟩
    rw [held]
    cases phase with
    | ready => exact ⟨complain_sameCommand d _, calm, nofun⟩
    | dataFromHost => exact absurd rfl past
    | dataToHost => exact ⟨sendData_sameCommand calm.idle t urb, sendData_calm d t urb⟩
    | status => exact ⟨sendStatus_sameCommand calm.idle t urb, sendStatus_calm calm t urb⟩
  exact ⟨.of_frame after.2.1 after.1 frame, after.2.2⟩

theorem resume_calm {d : Device} (calm : d.slot.Calm) (urb : Urb) : StaysCalm d (d.resume urb) := by
  obtain ⟨stays, unparked⟩ := bulkIn_calm calm urb
  unfold resume
  dsimp only
  rcases bulkIn_decides d urb with ⟨halting, stalled⟩ | ⟨bytes, completed⟩ | parked
  · rw [stalled]
    exact stays.trans ⟨stays.calm, ⟨rfl, rfl, rfl, rfl, rfl, rfl⟩, rfl, rfl⟩
  · rw [completed]
    exact stays.trans ⟨stays.calm, ⟨rfl, rfl, rfl, rfl, rfl, rfl⟩, rfl, rfl⟩
  · exact absurd parked (unparked urb)

theorem foldl_resume_calm {d : Device} (calm : d.slot.Calm) (urbs : List Urb) :
    StaysCalm d (urbs.foldl resume d) := by
  induction urbs generalizing d with
  | nil => exact ⟨calm, .refl d, rfl, rfl⟩
  | cons urb rest ih =>
    have first := resume_calm calm urb
    exact first.trans (ih first.calm)

theorem resumeParked_calm {d : Device} (calm : d.slot.Calm) :
    d.resumeParked.slot.Calm ∧ SameCommand d d.resumeParked ∧ d.resumeParked.parked = .empty ∧
      d.resumeParked.pendingReset = d.pendingReset := by
  have resumed := foldl_resume_calm (d := { d with parked := .empty }) calm d.parked.toList
  have emptied : SameCommand d { d with parked := .empty } := ⟨rfl, rfl, rfl, rfl, rfl, rfl⟩
  exact ⟨resumed.calm, emptied.trans resumed.same, resumed.parked, resumed.pendingReset⟩

structure Concluded (d e : Device) : Prop where
  calm : e.slot.Calm
  next : e.nextGeneration = d.nextGeneration
  submissions : e.submissions = d.submissions
  commands : e.statistics.commands = d.statistics.commands
  abandoned : e.statistics.abandoned = d.statistics.abandoned
  reclaimed : e.statistics.reclaimed = d.statistics.reclaimed
  parked : e.parked = .empty
  pendingReset : e.pendingReset = none

theorem takenBack_sameCommand (d : Device) (t : Transaction) (outcome : Scsi.Outcome) :
    SameCommand { d with slot := .held (t.finished outcome).phaseAfter (t.finished outcome) }
      (d.takenBack t outcome) := by
  unfold takenBack
  split <;> exact ⟨rfl, rfl, rfl, rfl, rfl, rfl⟩

theorem concluded_concludes (d : Device) (t : Transaction) (outcome : Scsi.Outcome) :
    Concluded d (d.concluded t outcome) := by
  have back := takenBack_sameCommand d t outcome
  have held : (d.takenBack t outcome).slot.Calm :=
    ⟨_, _, rfl, Transaction.phaseAfter_ne_dataFromHost _⟩
  obtain ⟨calm, resumed, parked, -⟩ := resumeParked_calm held
  have same := back.trans resumed
  rw [concluded_eq]
  split
  next =>
    rw [finishReset_eq]
    exact ⟨calm.rewound, same.next, same.submissions, same.commands, same.abandoned,
      same.reclaimed, rfl, rfl⟩
  next nothing =>
    exact ⟨calm, same.next, same.submissions, same.commands, same.abandoned,
      same.reclaimed, parked, by simpa using nothing⟩

theorem settle_executing {d : Device} {command : Command} (completion : Completion)
    (executing : d.slot = .executing command.generation) :
    d.settle command completion =
      concluded { d with events := d.events ++ completion.events command }
        (completion.returned command).transaction (completion.outcome command) := by
  have same : (completion.returned command).generation = command.generation := by
    unfold Completion.returned
    split <;> rfl
  unfold settle complete
  rw [same, if_pos executing]

theorem settle_stale {d : Device} {command : Command} (completion : Completion)
    (stale : d.slot ≠ .executing command.generation) :
    d.settle command completion =
      reclaimed { d with events := d.events ++ completion.events command } command.generation := by
  have same : (completion.returned command).generation = command.generation := by
    unfold Completion.returned
    split <;> rfl
  unfold settle complete
  rw [same, if_neg stale]

theorem settle_concludes {d : Device} {command : Command} (completion : Completion)
    (executing : d.slot = .executing command.generation) :
    Concluded d (d.settle command completion) := by
  rw [settle_executing completion executing]
  obtain ⟨calm, next, submissions, commands, abandoned, reclaimed, parked, pendingReset⟩ :=
    concluded_concludes { d with events := d.events ++ completion.events command }
      (completion.returned command).transaction (completion.outcome command)
  exact ⟨calm, next, submissions, commands, abandoned, reclaimed, parked, pendingReset⟩

end Device

end BulkOnly
