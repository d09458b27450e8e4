import BulkOnly.Proofs.Conclusion
import BulkOnly.Proofs.Grammar
import BulkOnly.Proofs.Run

set_option autoImplicit false

namespace BulkOnly

structure Transaction.Sound (t : Transaction) : Prop where
  wellFormed : t.WellFormed
  blockLength : t.wrapper.HasValidBlockLength

theorem CommandWrapper.hasValidBlockLength_of_parse {data : Bytes} {wrapper : CommandWrapper}
    (parsed : CommandWrapper.parse data = .ok wrapper) : wrapper.HasValidBlockLength := by
  obtain ⟨grammatical, rfl⟩ := CommandWrapper.parse_eq_ok_iff.mp parsed
  exact grammatical.blockLength

namespace Transaction.Sound

variable {t : Transaction}

theorem opened (t : Transaction) {data : Bytes} {wrapper : CommandWrapper}
    (parsed : CommandWrapper.parse data = .ok wrapper) : (t.opened wrapper).Sound :=
  ⟨wellFormed_opened t wrapper, CommandWrapper.hasValidBlockLength_of_parse parsed⟩

theorem received (sound : t.Sound) {next : Transaction} {data : Bytes}
    (taken : t.received? data = some next) : next.Sound := by
  refine ⟨sound.wellFormed.received taken, ?_⟩
  unfold received? at taken
  split at taken
  · cases taken
    exact sound.blockLength
  · cases taken

theorem started (sound : t.Sound) {length : Nat} (le : length ≤ t.declared) :
    (t.started length).Sound := ⟨sound.wellFormed.started le, sound.blockLength⟩

theorem finished (sound : t.Sound) (outcome : Scsi.Outcome) : (t.finished outcome).Sound :=
  ⟨sound.wellFormed.finished outcome, sound.blockLength⟩

theorem answeredSense (sound : t.Sound) : t.answeredSense.Sound :=
  ⟨sound.wellFormed.answeredSense, sound.blockLength⟩

theorem advanced (sound : t.Sound) (room : Nat) : (t.advanced (t.chunk room).length).Sound :=
  ⟨sound.wellFormed.advanced room, sound.blockLength⟩

theorem rewound (sound : t.Sound) : t.rewound.Sound :=
  ⟨sound.wellFormed.rewound, sound.blockLength⟩

end Transaction.Sound

-- A device that had no memory for its first command holds a transaction that was never opened.
def Slot.Sound (slot : Slot) : Prop :=
  ∀ phase t, slot = .held phase t → t.Sound ∨ (phase = .ready ∧ t = {})

theorem Slot.sound_held {phase : Phase} {t : Transaction} (sound : t.Sound) :
    (Slot.held phase t).Sound := by
  rintro other t' same
  cases same
  exact .inl sound

theorem Slot.Sound.rewound {slot : Slot} (sound : slot.Sound) : slot.rewound.Sound := by
  cases slot with
  | vacant => exact nofun
  | executing generation => exact nofun
  | held phase t =>
    rcases sound phase t rfl with opened | ⟨-, rfl⟩
    · exact sound_held opened.rewound
    · rintro other t' same
      cases same
      exact .inr ⟨rfl, rfl⟩

theorem SavedState.sound_of_slot {saved : SavedState} {slot : Slot}
    (accepted : saved.slot = .ok slot) : slot.Sound := by
  unfold SavedState.slot at accepted
  split at accepted
  · cases accepted
    exact nofun
  · obtain ⟨phase, -, rfl, wellFormed, blockLength⟩ := SavedTransaction.slot_eq_ok_iff.mp accepted
    exact Slot.sound_held ⟨wellFormed, blockLength⟩

theorem Completion.sound_returned {command : Command} (sound : command.transaction.Sound)
    (completion : Completion) : (completion.returned command).transaction.Sound := by
  have written : (completion.written command).transaction.Sound := by
    obtain ⟨⟨buffer, offset, transferred, length⟩, block⟩ := sound
    exact ⟨⟨(command.length_buffer_withData completion.data).trans buffer, offset, transferred,
      length⟩, block⟩
  unfold Completion.returned
  split
  · exact ⟨⟨written.wellFormed.buffer_length, written.wellFormed.offset_le,
      written.wellFormed.transferred_le, written.wellFormed.length_le⟩, written.blockLength⟩
  · exact written

namespace Device

structure Sound (d : Device) : Prop where
  slot : d.slot.Sound
  submissions : ∀ command ∈ d.submissions, command.transaction.Sound

variable {d e : Device}

namespace Sound

theorem kept (sound : d.Sound) (slot : e.slot = d.slot)
    (submissions : e.submissions = d.submissions) : e.Sound := by
  obtain ⟨held, issued⟩ := sound
  rw [← slot] at held
  rw [← submissions] at issued
  exact ⟨held, issued⟩

theorem of_task (sound : d.Sound) (task : SameTask d e) : e.Sound :=
  sound.kept task.slot task.submissions

theorem held (sound : d.Sound) {phase : Phase} {t : Transaction} (opened : t.Sound) :
    Sound { d with slot := .held phase t } := ⟨Slot.sound_held opened, sound.submissions⟩

theorem startCommand (sound : d.Sound) {t : Transaction} (opened : t.Sound) {length : Nat}
    (le : length ≤ t.declared) : (d.startCommand t length).Sound := by
  unfold Device.startCommand
  split
  · exact (sound.held opened.answeredSense).kept rfl rfl
  · refine ⟨nofun, ?_⟩
    intro command member
    rcases List.mem_append.mp member with old | new
    · exact sound.submissions command old
    · rw [List.mem_singleton.mp new]
      exact opened.started le

theorem finishReset (sound : d.Sound) (kind : Reset) : (d.finishReset kind).Sound := by
  rw [finishReset_eq]
  exact ⟨sound.slot.rewound, sound.submissions⟩

theorem resetAs (sound : d.Sound) (kind : Reset) : (d.resetAs kind).Sound := by
  have abandoned : d.abandon.Sound := by
    unfold Device.abandon
    split
    · exact ⟨nofun, sound.submissions⟩
    · exact sound
  exact abandoned.finishReset kind

end Sound

theorem sendData_sound (sound : d.Sound) {t : Transaction} (opened : t.Sound) (urb : Urb) :
    (d.sendData t urb).1.Sound := by
  unfold sendData
  split
  · exact (sound.held opened).kept rfl rfl
  · exact sound.held (opened.advanced urb.requested)

theorem sendStatus_sound (sound : d.Sound) {t : Transaction} (opened : t.Sound) (urb : Urb) :
    (d.sendStatus t urb).1.Sound := by
  unfold sendStatus
  split
  · exact sound.kept rfl rfl
  · exact (sound.held opened.rewound).kept rfl rfl

theorem sendEarlyStatus_sound (sound : d.Sound) {t : Transaction} (opened : t.Sound) (urb : Urb) :
    (d.sendEarlyStatus t urb).1.Sound := by
  have logged (event : Event) : (d.log event).Sound := sound.kept rfl rfl
  unfold sendEarlyStatus
  split
  · exact sound.kept rfl rfl
  dsimp only
  split
  · exact sendStatus_sound (logged _) ((opened.started (Nat.zero_le _)).finished _) urb
  · exact (logged _).startCommand opened opened.wellFormed.offset_le

theorem bulkIn_sound (sound : d.Sound) (urb : Urb) : (d.bulkIn urb).1.Sound := by
  have opened {phase : Phase} {t : Transaction} (held : d.slot = .held phase t)
      (busy : phase ≠ .ready) : t.Sound :=
    (sound.slot phase t held).resolve_right fun fresh => busy fresh.1
  unfold bulkIn
  split
  · exact sound.kept rfl rfl
  split
  · exact sound.kept rfl rfl
  split
  next => exact sound
  next held => exact sendData_sound sound (opened held nofun) urb
  next held => exact sendStatus_sound sound (opened held nofun) urb
  next held => exact sendEarlyStatus_sound sound (opened held nofun) urb
  next => exact sound.kept rfl rfl

theorem receiveCommand_sound (sound : d.Sound) {t : Transaction} (ready : t.Sound ∨ t = {})
    (urb : Urb) : (d.receiveCommand t urb).1.Sound := by
  unfold receiveCommand
  split
  · exact sound.kept rfl rfl
  next wrapper parsed =>
    split
    · exact sound.kept rfl rfl
    split
    · refine ⟨?_, sound.submissions⟩
      rintro phase other same
      cases same
      exact ready.imp_right fun fresh => ⟨rfl, fresh⟩
    · have logged : (d.log (.commandAccepted wrapper)).Sound := sound.kept rfl rfl
      have opened := Transaction.Sound.opened t parsed
      dsimp only
      split
      · exact logged.held opened
      · exact logged.startCommand opened (Nat.le_refl _)

theorem receiveData_sound (sound : d.Sound) {t : Transaction} (opened : t.Sound) (urb : Urb) :
    (d.receiveData t urb).1.Sound := by
  unfold receiveData
  split
  · exact sound.kept rfl rfl
  next next taken =>
    have received := opened.received taken
    split
    · exact sound.startCommand received (Nat.le_refl _)
    · exact sound.held received

theorem bulkOut_sound (sound : d.Sound) (urb : Urb) : (d.bulkOut urb).1.Sound := by
  unfold bulkOut
  split
  · exact sound.kept rfl rfl
  split
  · exact sound.kept rfl rfl
  split
  next => exact receiveCommand_sound sound (.inr rfl) urb
  next t held =>
    exact receiveCommand_sound sound ((sound.slot .ready t held).imp_right And.right) urb
  next t held =>
    exact receiveData_sound sound ((sound.slot _ t held).resolve_right nofun) urb
  next => exact sound.kept rfl rfl

theorem control_sound (sound : d.Sound) (urb : Urb) : (d.control urb).1.Sound := by
  rcases control_cases d urb with replied | ⟨e, task, -, resets⟩
  · exact sound.of_task replied.task
  · rw [resets]
    unfold bulkOnlyReset
    have logged : (e.log .bulkOnlyReset).Sound := (sound.of_task task).kept rfl rfl
    dsimp only
    split
    · split
      · exact logged.kept rfl rfl
      · exact logged.kept rfl rfl
    · exact logged.finishReset .bulkOnly

theorem handle_sound (sound : d.Sound) (address : UInt8) (urb : Urb) :
    (d.handle address urb).1.Sound := by
  unfold handle
  split
  · exact control_sound sound urb
  · exact bulkOut_sound sound urb
  · exact bulkIn_sound sound urb
  · exact sound.kept rfl rfl

theorem apply_sound (sound : d.Sound) (disposition : Disposition) :
    (d.apply disposition).1.Sound := by
  cases disposition with
  | reconfigure urb value => exact (sound.resetAs _).kept rfl rfl
  | _ => exact sound.kept rfl rfl

theorem cancel_sound (sound : d.Sound) (id : Nat) : (d.cancel id).Sound := by
  unfold cancel
  split
  · exact sound.kept rfl rfl
  split
  · exact sound.kept rfl rfl
  split <;> exact sound.kept rfl rfl

theorem operate_sound (sound : d.Sound) (operation : Device.Operation) :
    (d.operate operation).1.Sound := by
  cases operation with
  | dispatch address urb => exact apply_sound (handle_sound sound address urb) _
  | cancel id => exact cancel_sound sound id
  | reset =>
    have logged : (d.log .deviceReset).Sound := sound.kept rfl rfl
    exact logged.resetAs .device
  | setConfiguration value =>
    simp only [operate, setConfiguration]
    split
    · exact sound.resetAs _
    · exact sound.kept rfl rfl
  | restore saved =>
    simp only [operate]
    split
    next restored =>
      obtain ⟨slot, accepted, -, rfl⟩ := restore_eq_ok_iff.mp restored
      exact ⟨SavedState.sound_of_slot accepted, sound.submissions⟩
    next => exact sound
  | _ => exact sound.of_task (operate_task d rfl)

theorem foldl_resume_sound (sound : d.Sound) (urbs : List Urb) : (urbs.foldl resume d).Sound := by
  induction urbs generalizing d with
  | nil => exact sound
  | cons urb rest ih => exact ih (apply_sound (bulkIn_sound sound urb) _)

theorem concluded_sound (sound : d.Sound) {t : Transaction} (opened : t.Sound)
    (outcome : Scsi.Outcome) : (d.concluded t outcome).Sound := by
  have back : (d.takenBack t outcome).Sound := by
    refine ⟨Slot.sound_held (opened.finished outcome), ?_⟩
    rw [(takenBack_sameCommand d t outcome).submissions]
    exact sound.submissions
  have emptied : Sound { d.takenBack t outcome with parked := .empty } := back.kept rfl rfl
  have resumed : (d.takenBack t outcome).resumeParked.Sound := foldl_resume_sound emptied _
  rw [concluded_eq]
  split
  · exact resumed.finishReset .bulkOnly
  · exact resumed

theorem settle_sound (sound : d.Sound) {command : Command} (opened : command.transaction.Sound)
    (completion : Completion) : (d.settle command completion).Sound := by
  have heard (events : List Event) : Sound { d with events } := sound.kept rfl rfl
  by_cases executing : d.slot = .executing command.generation
  · rw [settle_executing completion executing]
    exact concluded_sound (heard _) (completion.sound_returned opened) _
  · rw [settle_stale completion executing]
    exact sound.kept rfl rfl

end Device

namespace System

structure Sound (s : System) : Prop where
  device : s.device.Sound
  waiting : ∀ command ∈ s.waiting, command.transaction.Sound

theorem durable_sound : Durable Device.Sound fun command => command.transaction.Sound where
  told _ _ sound := sound.kept rfl rfl
  drained _ sound := ⟨sound.slot, nofun⟩
  issued _ sound := sound.submissions
  ended _ _ completion opened sound := Device.settle_sound sound opened completion

theorem turn_sound {s : System} (sound : s.Sound) {turn : Turn} (before : s.condition = .working)
    (after : (s.turn turn).system.condition = .working) : (s.turn turn).system.Sound := by
  obtain ⟨device, waiting⟩ := durable_sound.turn before after sound.device sound.waiting
    fun operation _ => Device.operate_sound sound.device operation
  exact ⟨device, waiting⟩

theorem play_sound {settings : Settings} {location : String} {target : Target} {turns : List Turn}
    (working : ((create settings location target).play turns).condition = .working) :
    ((create settings location target).play turns).Sound := by
  refine play_induction (fun _ s => s.Sound) ?_ ?_ turns working
  · exact ⟨⟨nofun, by simp [create]⟩, by simp [create]⟩
  · exact fun turns turn sound before after => turn_sound sound before after

end System

end BulkOnly
