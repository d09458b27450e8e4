import BulkOnly.Proofs.Conclusion
import Mathlib.Data.List.Forall2

set_option autoImplicit false

namespace BulkOnly

def Slot.retained? : Slot → Option Scsi.Sense
  | .vacant => some Scsi.Sense.zero
  | .held .ready t => some t.sense
  | .held .. | .executing _ => none

theorem Slot.retained?_eq_some_iff {slot : Slot} {sense : Scsi.Sense} :
    slot.retained? = some sense ↔
      (slot = .vacant ∧ sense = Scsi.Sense.zero) ∨
        ∃ t, slot = .held .ready t ∧ t.sense = sense := by
  cases slot with
  | vacant => simp [retained?, eq_comm]
  | executing generation => simp [retained?]
  | held phase t => cases phase <;> simp [retained?]

-- No more memory is asked for than a command may transfer.
def Settings.SameRoom (these those : Settings) (kept kept' : Nat) : Prop :=
  ∀ length : UInt32, length ≤ those.maxTransferLength →
    these.allocator.makesRoom kept length.toNat = those.allocator.makesRoom kept' length.toNat

structure Settings.Alike (these those : Settings) : Prop where
  maxTransferLength : these.maxTransferLength = those.maxTransferLength
  room (kept : Nat) : these.SameRoom those kept kept

theorem Settings.Alike.refl (settings : Settings) : settings.Alike settings :=
  ⟨rfl, fun _ _ _ => rfl⟩

structure Command.Alike (base base' : Nat) (c c' : Command) : Prop where
  generation : ∃ since, c.generation = base + since ∧ c'.generation = base' + since
  transaction : c.transaction = c'.transaction

-- Slots that are ready may keep buffers of different lengths, as long as that shows in no command.
inductive Slot.Alike (base base' : Nat) (room : Nat → Nat → Prop) (slot slot' : Slot) : Prop where
  | retained (sense : Scsi.Sense) (these : slot.retained? = some sense)
    (those : slot'.retained? = some sense) (room : room slot.kept slot'.kept)
  | held (phase : Phase) (t : Transaction) (these : slot = .held phase t)
    (those : slot' = .held phase t)
  | executing (since : Nat) (these : slot = .executing (base + since))
    (those : slot' = .executing (base' + since))

namespace Slot.Alike

variable {base base' : Nat} {room : Nat → Nat → Prop} {slot slot' : Slot}

theorem room_kept (alike : Slot.Alike base base' room slot slot') (same : ∀ kept, room kept kept) :
    room slot.kept slot'.kept := by
  cases alike with
  | retained sense these those room => exact room
  | held phase t these those =>
    rw [these, those]
    exact same t.buffer.length
  | executing since these those =>
    rw [these, those]
    exact same 0

theorem isExecuting (alike : Slot.Alike base base' room slot slot') :
    slot.isExecuting = slot'.isExecuting := by
  cases alike with
  | retained sense these those room =>
    rcases retained?_eq_some_iff.mp these with ⟨rfl, -⟩ | ⟨t, rfl, -⟩ <;>
      rcases retained?_eq_some_iff.mp those with ⟨rfl, -⟩ | ⟨t', rfl, -⟩ <;> rfl
  | held phase t these those => rw [these, those]
  | executing since these those => rw [these, those]; rfl

theorem rewound (alike : Slot.Alike base base' room slot slot') :
    Slot.Alike base base' room slot.rewound slot'.rewound := by
  have kept {slot : Slot} {sense : Scsi.Sense} (retained : slot.retained? = some sense) :
      slot.rewound.retained? = some sense := by
    rcases retained?_eq_some_iff.mp retained with ⟨rfl, rfl⟩ | ⟨t, rfl, rfl⟩ <;> rfl
  cases alike with
  | retained sense these those room =>
    refine .retained sense (kept these) (kept those) ?_
    rw [slot.kept_rewound, slot'.kept_rewound]
    exact room
  | held phase t these those =>
    exact .held .ready t.rewound (by rw [these]; rfl) (by rw [those]; rfl)
  | executing since these those => exact .executing since (by rw [these]; rfl) (by rw [those]; rfl)

theorem executing_iff {c c' : Command} (alike : Slot.Alike base base' room slot slot')
    (command : Command.Alike base base' c c') :
    slot = .executing c.generation ↔ slot' = .executing c'.generation := by
  obtain ⟨since, these, those⟩ := command.generation
  rw [these, those]
  cases alike with
  | retained sense ready ready' room =>
    rcases retained?_eq_some_iff.mp ready with ⟨rfl, -⟩ | ⟨t, rfl, -⟩ <;>
      rcases retained?_eq_some_iff.mp ready' with ⟨rfl, -⟩ | ⟨t', rfl, -⟩ <;> simp
  | held phase t held held' => simp [held, held']
  | executing other executing executing' => simp [executing, executing']

end Slot.Alike

namespace Device

-- The devices `d` and `e` after they have gone the same way from `d₀` and `e₀`.
structure Alike (d₀ e₀ d e : Device) : Prop where
  settings : d.settings.Alike e.settings
  descriptors : d.descriptors = e.descriptors
  configuration : d.configuration = e.configuration
  bulkIn : d.halts.bulkIn = e.halts.bulkIn
  bulkOut : d.halts.bulkOut = e.halts.bulkOut
  parked : d.parked = e.parked
  pendingReset : d.pendingReset = e.pendingReset
  slot : Slot.Alike d₀.nextGeneration e₀.nextGeneration (d.settings.SameRoom e.settings) d.slot
    e.slot
  issued : ∃ count, d.nextGeneration = d₀.nextGeneration + count ∧
    e.nextGeneration = e₀.nextGeneration + count
  submissions : List.Forall₂ (Command.Alike d₀.nextGeneration e₀.nextGeneration) d.submissions
    e.submissions
  returned : ∃ urbs, d.done.toList = d₀.done.toList ++ urbs ∧ e.done.toList = e₀.done.toList ++ urbs

variable {d₀ e₀ d e : Device}

namespace Alike

theorem makesRoom (alike : Alike d₀ e₀ d e) {length : UInt32}
    (allowed : length ≤ e.settings.maxTransferLength) : d.makesRoom length = e.makesRoom length :=
  alike.slot.room_kept alike.settings.room length allowed

theorem log (alike : Alike d₀ e₀ d e) (event event' : Event) :
    Alike d₀ e₀ (d.log event) (e.log event') := { alike with }

theorem complain (alike : Alike d₀ e₀ d e) (about about' : Complaint) :
    Alike d₀ e₀ (d.complain about) (e.complain about') := { alike with }

theorem held (alike : Alike d₀ e₀ d e) (phase : Phase) (t : Transaction) :
    Alike d₀ e₀ { d with slot := .held phase t } { e with slot := .held phase t } :=
  { alike with slot := .held phase t rfl rfl }

theorem finishes (alike : Alike d₀ e₀ d e) (urbs : List Urb) :
    ∃ all, d.done.toList ++ urbs = d₀.done.toList ++ all ∧
      e.done.toList ++ urbs = e₀.done.toList ++ all := by
  obtain ⟨before, these, those⟩ := alike.returned
  exact ⟨before ++ urbs, by rw [these, List.append_assoc], by rw [those, List.append_assoc]⟩

theorem finish (alike : Alike d₀ e₀ d e) (urb : Urb) (status : Urb.Status) :
    Alike d₀ e₀ (d.finish urb status) (e.finish urb status) :=
  { alike with returned := alike.finishes [urb.finished status] }

theorem halts_raise (alike : Alike d₀ e₀ d e) (pipes : List Pipe) :
    (d.halts.raise pipes).bulkIn = (e.halts.raise pipes).bulkIn ∧
      (d.halts.raise pipes).bulkOut = (e.halts.raise pipes).bulkOut := by
  have bulkIn := d.halts.get_raise pipes .bulkIn
  have bulkOut := d.halts.get_raise pipes .bulkOut
  simp only [Halts.get, alike.bulkIn, alike.bulkOut] at bulkIn bulkOut
  rw [bulkIn, bulkOut]
  exact ⟨(e.halts.get_raise pipes .bulkIn).symm, (e.halts.get_raise pipes .bulkOut).symm⟩

theorem halts_set (alike : Alike d₀ e₀ d e) (pipe : Pipe) (halt : Bool) :
    (d.halts.set pipe halt).bulkIn = (e.halts.set pipe halt).bulkIn ∧
      (d.halts.set pipe halt).bulkOut = (e.halts.set pipe halt).bulkOut := by
  cases pipe with
  | control => exact ⟨alike.bulkIn, alike.bulkOut⟩
  | bulkIn => exact ⟨rfl, alike.bulkOut⟩
  | bulkOut => exact ⟨alike.bulkIn, rfl⟩

theorem stall (alike : Alike d₀ e₀ d e) (urb : Urb) (halting : List Pipe) :
    Alike d₀ e₀ (d.stall urb halting) (e.stall urb halting) :=
  { alike with
    bulkIn := (alike.halts_raise halting).1
    bulkOut := (alike.halts_raise halting).2
    returned := alike.finishes [urb.finished .stall] }

theorem startCommand (alike : Alike d₀ e₀ d e) (t : Transaction) (length : Nat) :
    Alike d₀ e₀ (d.startCommand t length) (e.startCommand t length) := by
  simp only [Device.startCommand]
  split
  · exact (alike.held _ _).log _ _
  · obtain ⟨count, these, those⟩ := alike.issued
    have next : Command.Alike d₀.nextGeneration e₀.nextGeneration
        ⟨d.nextGeneration, t.started length⟩ ⟨e.nextGeneration, t.started length⟩ :=
      ⟨⟨count, these, those⟩, rfl⟩
    exact
      { alike with
        slot := .executing count (by rw [these]) (by rw [those])
        issued := ⟨count + 1, congrArg (· + 1) these, congrArg (· + 1) those⟩
        submissions := List.rel_append alike.submissions (.cons next .nil) }

theorem finishReset (alike : Alike d₀ e₀ d e) (kind : Reset) :
    Alike d₀ e₀ (d.finishReset kind) (e.finishReset kind) := by
  rw [finishReset_eq, finishReset_eq, alike.parked, alike.pendingReset]
  have returned := alike.finishes (e.parked.toList.map (·.finished .transportError) ++
    e.pendingReset.toList.map (·.finished .ok))
  simp only [← List.append_assoc] at returned
  exact
    { alike with
      configuration := congrArg kind.configurationAfter alike.configuration
      bulkIn := rfl
      bulkOut := rfl
      parked := rfl
      pendingReset := rfl
      slot := alike.slot.rewound
      returned }

theorem abandon (alike : Alike d₀ e₀ d e) : Alike d₀ e₀ d.abandon e.abandon := by
  cases alike.slot with
  | retained sense these those room =>
    have rests {d : Device} (ready : d.slot.retained? = some sense) : d.abandon = d := by
      simp only [Device.abandon]
      rcases Slot.retained?_eq_some_iff.mp ready with ⟨slot, -⟩ | ⟨t, slot, -⟩ <;> rw [slot]
    rw [rests these, rests those]
    exact alike
  | held phase t these those =>
    simp only [Device.abandon]
    rw [these, those]
    exact alike
  | executing since these those =>
    simp only [Device.abandon]
    rw [these, those]
    exact { alike with slot := .retained Scsi.Sense.zero rfl rfl (alike.settings.room 0) }

theorem resetAs (alike : Alike d₀ e₀ d e) (kind : Reset) :
    Alike d₀ e₀ (d.resetAs kind) (e.resetAs kind) := alike.abandon.finishReset kind

end Alike

structure Agree {α : Type} (d₀ e₀ : Device) (these those : Device × α) : Prop where
  device : Alike d₀ e₀ these.1 those.1
  verdict : these.2 = those.2

theorem sendData_alike (alike : Alike d₀ e₀ d e) (t : Transaction) (urb : Urb) :
    Agree d₀ e₀ (d.sendData t urb) (e.sendData t urb) := by
  simp only [sendData]
  split
  · exact ⟨(alike.held _ _).complain _ _, rfl⟩
  · exact ⟨alike.held _ _, rfl⟩

theorem sendStatus_alike (alike : Alike d₀ e₀ d e) (t : Transaction) (urb : Urb) :
    Agree d₀ e₀ (d.sendStatus t urb) (e.sendStatus t urb) := by
  simp only [sendStatus]
  split
  · exact ⟨alike.complain _ _, rfl⟩
  · exact ⟨(alike.held _ _).log _ _, rfl⟩

theorem sendEarlyStatus_alike (alike : Alike d₀ e₀ d e) (t : Transaction) (urb : Urb) :
    Agree d₀ e₀ (d.sendEarlyStatus t urb) (e.sendEarlyStatus t urb) := by
  unfold sendEarlyStatus
  split
  · exact ⟨alike.complain _ _, rfl⟩
  dsimp only
  split
  · exact sendStatus_alike (alike.log _ _) _ urb
  · exact ⟨(alike.log _ _).startCommand _ _, rfl⟩

theorem bulkIn_alike (alike : Alike d₀ e₀ d e) (urb : Urb) :
    Agree d₀ e₀ (d.bulkIn urb) (e.bulkIn urb) := by
  simp only [bulkIn]
  rw [alike.bulkIn]
  split
  · exact ⟨alike.complain _ _, rfl⟩
  split
  · exact ⟨alike.complain _ _, rfl⟩
  cases alike.slot with
  | retained sense these those room =>
    rcases Slot.retained?_eq_some_iff.mp these with ⟨slot, -⟩ | ⟨t, slot, -⟩ <;>
      rcases Slot.retained?_eq_some_iff.mp those with ⟨slot', -⟩ | ⟨t', slot', -⟩ <;>
      rw [slot, slot'] <;> exact ⟨alike.complain _ _, rfl⟩
  | executing since these those =>
    rw [these, those]
    exact ⟨alike, rfl⟩
  | held phase t these those =>
    rw [these, those]
    cases phase with
    | ready => exact ⟨alike.complain _ _, rfl⟩
    | dataFromHost => exact sendEarlyStatus_alike alike t urb
    | dataToHost => exact sendData_alike alike t urb
    | status => exact sendStatus_alike alike t urb

theorem receiveCommand_alike (alike : Alike d₀ e₀ d e) {t t' : Transaction}
    (sense : t.sense = t'.sense)
    (room : d.settings.SameRoom e.settings t.buffer.length t'.buffer.length) (urb : Urb) :
    Agree d₀ e₀ (d.receiveCommand t urb) (e.receiveCommand t' urb) := by
  simp only [receiveCommand]
  rw [alike.settings.maxTransferLength]
  split
  next reason refused => exact ⟨alike.complain _ _, rfl⟩
  next wrapper parsed =>
    split
    · exact ⟨alike.complain _ _, rfl⟩
    next fits =>
      rw [alike.makesRoom (UInt32.not_lt.mp fits)]
      split
      · have ready : Alike d₀ e₀ { d with slot := .held .ready t }
            { e with slot := .held .ready t' } :=
          { alike with slot := .retained t'.sense (congrArg some sense) rfl room }
        exact ⟨ready.log _ _, rfl⟩
      · have opened : t.opened wrapper = t'.opened wrapper := by
          simp only [Transaction.opened]
          rw [sense]
        rw [opened]
        split
        · exact ⟨(alike.log _ _).held _ _, rfl⟩
        · exact ⟨(alike.log _ _).startCommand _ _, rfl⟩

theorem receiveData_alike (alike : Alike d₀ e₀ d e) (t : Transaction) (urb : Urb) :
    Agree d₀ e₀ (d.receiveData t urb) (e.receiveData t urb) := by
  simp only [receiveData]
  split
  · exact ⟨alike.complain _ _, rfl⟩
  · split
    · exact ⟨alike.startCommand _ _, rfl⟩
    · exact ⟨alike.held _ _, rfl⟩

theorem bulkOut_alike (alike : Alike d₀ e₀ d e) (urb : Urb) :
    Agree d₀ e₀ (d.bulkOut urb) (e.bulkOut urb) := by
  simp only [bulkOut]
  rw [alike.bulkOut]
  split
  · exact ⟨alike.complain _ _, rfl⟩
  split
  · exact ⟨alike.complain _ _, rfl⟩
  cases alike.slot with
  | retained sense these those room =>
    rcases Slot.retained?_eq_some_iff.mp these with ⟨slot, same⟩ | ⟨t, slot, same⟩ <;>
      rcases Slot.retained?_eq_some_iff.mp those with ⟨slot', same'⟩ | ⟨t', slot', same'⟩ <;>
      rw [slot, slot'] at room ⊢
    · refine receiveCommand_alike alike rfl ?_ urb
      exact room
    · refine receiveCommand_alike alike (same.symm.trans same'.symm) ?_ urb
      exact room
    · refine receiveCommand_alike alike (same.trans same') ?_ urb
      exact room
    · refine receiveCommand_alike alike (same.trans same'.symm) ?_ urb
      exact room
  | executing since these those =>
    rw [these, those]
    exact ⟨alike.complain _ _, rfl⟩
  | held phase t these those =>
    rw [these, those]
    cases phase with
    | ready => exact receiveCommand_alike alike rfl (alike.settings.room _) urb
    | dataFromHost => exact receiveData_alike alike t urb
    | dataToHost => exact ⟨alike.complain _ _, rfl⟩
    | status => exact ⟨alike.complain _ _, rfl⟩

theorem bulkOnlyReset_alike (alike : Alike d₀ e₀ d e) (urb : Urb) :
    Agree d₀ e₀ (d.bulkOnlyReset urb) (e.bulkOnlyReset urb) := by
  have logged := alike.log .bulkOnlyReset .bulkOnlyReset
  simp only [bulkOnlyReset]
  rw [logged.slot.isExecuting, logged.pendingReset]
  split
  · split
    · exact ⟨logged.complain _ _, rfl⟩
    · exact ⟨logged.log _ _, rfl⟩
  · exact ⟨logged.finishReset _, rfl⟩

-- A setup packet ends the stall of the control pipe, so the requests find it running in both.
theorem serve_alike (alike : Alike d₀ e₀ d e) (running : d.halts.control = e.halts.control)
    (request : ControlRequest) (setup : Setup) (urb : Urb) :
    Agree d₀ e₀ (d.serve request setup urb) (e.serve request setup urb) := by
  cases request with
  | bulkOnlyReset => exact bulkOnlyReset_alike alike urb
  | haltStatus pipe =>
    have same : d.halts.get pipe = e.halts.get pipe := by
      cases pipe with
      | control => exact running
      | bulkIn => exact alike.bulkIn
      | bulkOut => exact alike.bulkOut
    exact ⟨alike, by simp only [serve, same]⟩
  | haltFeature pipe address halt =>
    have set := alike.halts_set pipe halt
    exact ⟨{ alike with bulkIn := set.1, bulkOut := set.2 }, rfl⟩
  | descriptor kind index language =>
    simp only [serve]
    rw [alike.descriptors]
    split
    · exact ⟨alike, rfl⟩
    · exact ⟨alike, rfl⟩
    · exact ⟨alike.complain _ _, rfl⟩
  | configuration => exact ⟨alike, by simp only [serve, alike.configuration]⟩
  | configure value =>
    simp only [serve]
    rw [alike.configuration]
    split
    · exact ⟨alike, rfl⟩
    · exact ⟨{ alike with configuration := rfl }, rfl⟩
  | maxLun | deviceStatus | remoteWakeup | interface | selectInterface => exact ⟨alike, rfl⟩

theorem control_alike (alike : Alike d₀ e₀ d e) (urb : Urb) :
    Agree d₀ e₀ (d.control urb) (e.control urb) := by
  have running : Alike d₀ e₀ { d with halts := d.halts.set .control false }
      { e with halts := e.halts.set .control false } := { alike with }
  simp only [control]
  split
  · exact ⟨running.complain _ _, rfl⟩
  next setup parsed =>
    split
    · exact ⟨(running.log _ _).complain _ _, rfl⟩
    next request known => exact serve_alike (running.log _ _) rfl request setup urb

theorem handle_alike (alike : Alike d₀ e₀ d e) (address : UInt8) (urb : Urb) :
    Agree d₀ e₀ (d.handle address urb) (e.handle address urb) := by
  simp only [handle]
  split
  · exact control_alike alike urb
  · exact bulkOut_alike alike urb
  · exact bulkIn_alike alike urb
  · exact ⟨alike.complain _ _, rfl⟩

theorem apply_alike (alike : Alike d₀ e₀ d e) (disposition : Disposition) :
    Agree d₀ e₀ (d.apply disposition) (e.apply disposition) := by
  cases disposition with
  | complete urb => exact ⟨alike.finish urb .ok, rfl⟩
  | stall urb halting => exact ⟨alike.stall urb halting, rfl⟩
  | park urb => exact ⟨{ alike with parked := congrArg (·.append urb) alike.parked }, rfl⟩
  | hold urb => exact ⟨{ alike with pendingReset := rfl }, rfl⟩
  | reconfigure urb value => exact ⟨(alike.resetAs _).finish urb .ok, rfl⟩
  | fault => exact ⟨alike, rfl⟩

theorem dispatch_alike (alike : Alike d₀ e₀ d e) (address : UInt8) (urb : Urb) :
    Agree d₀ e₀ (d.dispatch address urb) (e.dispatch address urb) := by
  obtain ⟨handled, verdict⟩ := handle_alike alike address urb
  simp only [dispatch]
  rw [verdict]
  exact apply_alike handled _

theorem cancel_alike (alike : Alike d₀ e₀ d e) (id : Nat) :
    Alike d₀ e₀ (d.cancel id) (e.cancel id) := by
  simp only [cancel]
  rw [alike.parked, alike.pendingReset]
  split
  next urb rest removed =>
    exact
      { alike with
        parked := rfl
        pendingReset := rfl
        returned := alike.finishes [urb.finished .cancelled] }
  next =>
    split
    · exact alike.log _ _
    next urb waits =>
      split
      · exact
          { alike with
            parked := rfl
            pendingReset := rfl
            returned := alike.finishes [urb.finished .cancelled] }
      · exact alike.log _ _

theorem setConfiguration_alike (alike : Alike d₀ e₀ d e) (value : UInt8) :
    Alike d₀ e₀ (d.setConfiguration value) (e.setConfiguration value) := by
  simp only [setConfiguration]
  rw [alike.configuration]
  split
  · exact alike.resetAs _
  · exact { alike with configuration := rfl }

theorem clearHalt_alike (alike : Alike d₀ e₀ d e) (address : UInt8) :
    Alike d₀ e₀ (d.clearHalt address) (e.clearHalt address) := by
  simp only [clearHalt]
  split
  next pipe named =>
    have set := alike.halts_set pipe false
    exact { alike with bulkIn := set.1, bulkOut := set.2 }
  next => exact alike

theorem resume_alike (alike : Alike d₀ e₀ d e) (urb : Urb) :
    Alike d₀ e₀ (d.resume urb) (e.resume urb) := by
  obtain ⟨handled, verdict⟩ := bulkIn_alike alike urb
  simp only [resume]
  rw [verdict]
  exact (apply_alike handled _).device

theorem foldl_resume_alike (alike : Alike d₀ e₀ d e) (urbs : List Urb) :
    Alike d₀ e₀ (urbs.foldl resume d) (urbs.foldl resume e) := by
  induction urbs generalizing d e with
  | nil => exact alike
  | cons urb rest ih => exact ih (resume_alike alike urb)

theorem concluded_alike (alike : Alike d₀ e₀ d e) (t : Transaction) (outcome : Scsi.Outcome) :
    Alike d₀ e₀ (d.concluded t outcome) (e.concluded t outcome) := by
  have back : Alike d₀ e₀ (d.takenBack t outcome) (e.takenBack t outcome) := by
    simp only [takenBack]
    split
    · exact ((alike.log _ _).held _ _).log _ _
    · exact (alike.held _ _).log _ _
  have resumed : Alike d₀ e₀ (d.takenBack t outcome).resumeParked
      (e.takenBack t outcome).resumeParked := by
    have emptied : Alike d₀ e₀ { d.takenBack t outcome with parked := .empty }
        { e.takenBack t outcome with parked := .empty } := { back with parked := rfl }
    simp only [resumeParked]
    rw [back.parked]
    exact foldl_resume_alike emptied _
  rw [concluded_eq, concluded_eq, resumed.pendingReset]
  split
  · exact resumed.finishReset .bulkOnly
  · exact resumed

theorem settle_alike (alike : Alike d₀ e₀ d e) {c c' : Command}
    (same : Command.Alike d₀.nextGeneration e₀.nextGeneration c c') (completion : Completion) :
    Alike d₀ e₀ (d.settle c completion) (e.settle c' completion) := by
  have returned : (completion.returned c).transaction = (completion.returned c').transaction := by
    simp only [Completion.returned]
    split <;>
      simp only [Completion.written, Command.withSense, Command.withData, Command.data,
        Command.length, same.transaction]
  have outcome : completion.outcome c = completion.outcome c' := by
    simp only [Completion.outcome]
    split <;> simp only [Command.length, same.transaction]
  have heard (events events' : List Event) :
      Alike d₀ e₀ { d with events } { e with events := events' } := { alike with }
  have own := alike.slot.executing_iff same
  by_cases executing : d.slot = .executing c.generation
  · rw [settle_executing completion executing, settle_executing completion (own.mp executing),
      returned, outcome]
    exact concluded_alike (heard _ _) _ _
  · rw [settle_stale completion executing, settle_stale completion (own.not.mp executing)]
    exact { alike with }

end Device

end BulkOnly
