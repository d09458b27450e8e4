import BulkOnly.Proofs.History
import BulkOnly.Proofs.Quiet

set_option autoImplicit false

namespace BulkOnly

inductive News where
  | accepted (wrapper : CommandWrapper)
  | cutShort
  | ended (command : Command) (completion : Completion)
  | gaveUp
  | restored (saved : SavedState)
  deriving DecidableEq, Repr

def CommandWrapper.asksForSense (wrapper : CommandWrapper) : Bool :=
  wrapper.opcode = Transaction.requestSense &&
    (wrapper.direction = .toHost || wrapper.transferLength = 0)

def SavedState.sense (saved : SavedState) : Scsi.Sense :=
  saved.transaction.elim Scsi.Sense.zero (·.transaction.sense)

def News.retained (sense : Scsi.Sense) : News → Scsi.Sense
  | accepted wrapper => if wrapper.asksForSense then Scsi.Sense.zero else sense
  | cutShort | gaveUp => Scsi.Sense.zero
  | ended command completion =>
    match completion.ending with
    | .dropped => Scsi.Sense.abortedCommand
    | .ended status _ _ =>
      if status.isGood then Scsi.Sense.zero
      else (completion.written command).transaction.sense
  | restored saved => saved.sense

-- Until data has come in for a write, a read for a status wrapper cuts it short at once.
def Deed.news? : Deed → Option News
  | moved .bulkOut .ready urb => (CommandWrapper.parse urb.payload).toOption.map .accepted
  | moved .bulkIn .dataFromHost _ => some .cutShort
  | _ => none

namespace Slot

def sense? : Slot → Option Scsi.Sense
  | vacant => some Scsi.Sense.zero
  | held _ t => some t.sense
  | executing _ => none

@[simp] theorem sense?_rewound (slot : Slot) : slot.rewound.sense? = slot.sense? := by
  cases slot <;> rfl

-- A transaction that asks for sense data has no data to take.
def Sincere (slot : Slot) : Prop := ∀ t, slot = .held .dataFromHost t → t.asksForSense = false

theorem sincere_vacant : vacant.Sincere := nofun

theorem sincere_held {phase : Phase} {t : Transaction} (past : phase ≠ .dataFromHost) :
    (held phase t).Sincere := by
  rintro other same
  exact absurd (held.inj same).1 past

theorem sincere_executing (generation : Nat) : (executing generation).Sincere := nofun

theorem sincere_rewound (slot : Slot) : slot.rewound.Sincere := by
  cases slot with
  | vacant => exact sincere_vacant
  | held phase t => exact sincere_held (by decide)
  | executing generation => exact sincere_executing generation

end Slot

theorem SavedState.sense?_slot {saved : SavedState} {slot : Slot}
    (accepted : saved.slot = .ok slot) : slot.sense? = some saved.sense := by
  unfold SavedState.slot at accepted
  unfold SavedState.sense
  cases transaction : saved.transaction with
  | none =>
    rw [transaction] at accepted
    cases accepted
    rfl
  | some saved =>
    rw [transaction] at accepted
    obtain ⟨phase, -, rfl, -⟩ := SavedTransaction.slot_eq_ok_iff.mp accepted
    rfl

namespace Device

variable {d e : Device} {sense : Scsi.Sense}

def gaveUpTo (d e : Device) : List News :=
  if d.statistics.abandoned < e.statistics.abandoned then [.gaveUp] else []

def movesNews (d : Device) (pipe : Pipe) (disposition : Disposition) : List News :=
  (d.moves pipe disposition).filterMap Deed.news?

def dispatchNews (d : Device) (address : UInt8) (urb : Urb) : List News :=
  (d.dispatchDeeds address urb).filterMap Deed.news?

def operateNews (d : Device) (operation : Device.Operation) : List News :=
  match operation with
  | .dispatch address urb => d.dispatchNews address urb ++ d.gaveUpTo (d.operate operation).1
  | .restore saved => if (d.operate operation).2 = .done then [.restored saved] else []
  | _ => d.gaveUpTo (d.operate operation).1

def settleNews (d : Device) (command : Command) (completion : Completion) : List News :=
  if d.slot = .executing command.generation then [.ended command completion] else []

-- The device retains the sense data as long as it is at rest, and is in no state in which it could
-- give a request for it to the target.
structure Keeps (sense : Scsi.Sense) (d : Device) : Prop where
  sense : ∀ kept, d.slot.sense? = some kept → kept = sense
  sincere : d.slot.Sincere
  submissions : ∀ command ∈ d.submissions, command.transaction.asksForSense = false

namespace Keeps

theorem same (keeps : Keeps sense d) (slot : e.slot = d.slot)
    (submissions : e.submissions = d.submissions) : Keeps sense e := by
  obtain ⟨kept, sincere, asking⟩ := keeps
  rw [← slot] at kept sincere
  rw [← submissions] at asking
  exact ⟨kept, sincere, asking⟩

theorem held (keeps : Keeps sense d) {phase : Phase} {t : Transaction}
    (slot : e.slot = .held phase t)
    (sincere : phase = .dataFromHost → t.asksForSense = false)
    (submissions : e.submissions = d.submissions) : Keeps t.sense e := by
  refine ⟨?_, ?_, ?_⟩
  · intro kept same
    rw [slot] at same
    exact (Option.some.inj same).symm
  · intro other same
    rw [slot] at same
    cases same
    exact sincere rfl
  · rw [submissions]
    exact keeps.submissions

theorem past (keeps : Keeps sense d) {phase : Phase} {t : Transaction}
    (slot : e.slot = .held phase t) (past : phase ≠ .dataFromHost)
    (submissions : e.submissions = d.submissions) : Keeps t.sense e :=
  keeps.held slot (fun taking => absurd taking past) submissions

theorem rewound (keeps : Keeps sense d) (slot : e.slot = d.slot.rewound)
    (submissions : e.submissions = d.submissions) : Keeps sense e := by
  refine ⟨?_, ?_, ?_⟩
  · rw [slot, Slot.sense?_rewound]
    exact keeps.sense
  · rw [slot]
    exact Slot.sincere_rewound d.slot
  · rw [submissions]
    exact keeps.submissions

theorem sense_eq (keeps : Keeps sense d) {phase : Phase} {t : Transaction}
    (held : d.slot = .held phase t) : t.sense = sense :=
  keeps.sense t.sense (by rw [held]; rfl)

end Keeps

theorem startCommand_keeps (keeps : Keeps sense d) (t : Transaction) (length : Nat) :
    Keeps (if t.asksForSense then Scsi.Sense.zero else sense) (d.startCommand t length) := by
  unfold startCommand
  by_cases asks : t.asksForSense = true
  · rw [if_pos asks, if_pos asks]
    have past := Transaction.phaseAfter_ne_dataFromHost t.answeredSense
    exact keeps.past (t := t.answeredSense) rfl past rfl
  · rw [if_neg asks, if_neg asks]
    refine ⟨fun _ nothing => absurd nothing.symm (Option.some_ne_none _),
      Slot.sincere_executing _, ?_⟩
    intro command member
    rcases List.mem_append.mp member with old | new
    · exact keeps.submissions command old
    · rw [List.mem_singleton.mp new]
      exact Bool.eq_false_iff.mpr asks

theorem movesNews_complete {pipe : Pipe} {stage : Stage} (at_stage : d.slot.stage = stage)
    (urb : Urb) :
    d.movesNews pipe (.complete urb) = (Deed.moved pipe stage urb).news?.toList := by
  rw [movesNews, moves, at_stage, List.filterMap_cons, List.filterMap_nil]
  cases (Deed.moved pipe stage urb).news? <;> rfl

theorem receiveCommand_keeps (keeps : Keeps sense d) (ready : d.slot.stage = .ready)
    {t : Transaction} (same : t.sense = sense) (urb : Urb) :
    Keeps ((d.movesNews .bulkOut (d.receiveCommand t urb).2).foldl News.retained sense)
      (d.receiveCommand t urb).1 := by
  unfold receiveCommand
  cases parsed : CommandWrapper.parse urb.payload with
  | error reason => exact keeps.same rfl rfl
  | ok wrapper =>
    have news : d.movesNews .bulkOut (.complete urb) = [.accepted wrapper] := by
      rw [movesNews_complete ready]
      simp [Deed.news?, parsed, Except.toOption]
    have logged : Keeps sense (d.log (.commandAccepted wrapper)) := keeps.same rfl rfl
    have opened : (t.opened wrapper).sense = sense := same
    dsimp only
    split
    · exact keeps.same rfl rfl
    split
    · rw [← same]
      exact keeps.past rfl (by decide) rfl
    split
    next writes =>
      have plain : (t.opened wrapper).asksForSense = false :=
        Transaction.asksForSense_opened writes
      have unchanged : wrapper.asksForSense = false := plain
      rw [news, List.foldl_cons, List.foldl_nil, News.retained, unchanged, ← opened]
      exact keeps.held rfl (fun _ => plain) rfl
    next =>
      have started := startCommand_keeps logged (t.opened wrapper) wrapper.transferLength.toNat
      rw [news]
      exact started

theorem receiveData_keeps (keeps : Keeps sense d) {t : Transaction}
    (held : d.slot = .held .dataFromHost t) (urb : Urb) :
    Keeps ((d.movesNews .bulkOut (d.receiveData t urb).2).foldl News.retained sense)
      (d.receiveData t urb).1 := by
  have stage : d.slot.stage = .dataFromHost := by rw [held]; rfl
  have news : d.movesNews .bulkOut (.complete urb) = [] := movesNews_complete stage urb
  unfold receiveData
  cases taken : t.received? urb.payload with
  | none => exact keeps.same rfl rfl
  | some next =>
    have plain : next.asksForSense = false ∧ next.sense = sense := by
      have before := keeps.sincere t held
      have same := keeps.sense_eq held
      unfold Transaction.received? at taken
      split at taken
      · cases taken
        exact ⟨before, same⟩
      · cases taken
    dsimp only
    split
    · have started := startCommand_keeps keeps next next.declared
      rw [plain.1] at started
      rw [news]
      exact started
    · rw [news, List.foldl_nil, ← plain.2]
      exact keeps.held rfl (fun _ => plain.1) rfl

theorem bulkOut_keeps (keeps : Keeps sense d) (urb : Urb) :
    Keeps ((d.movesNews .bulkOut (d.bulkOut urb).2).foldl News.retained sense)
      (d.bulkOut urb).1 := by
  unfold bulkOut
  split
  · exact keeps.same rfl rfl
  split
  · exact keeps.same rfl rfl
  cases held : d.slot with
  | vacant =>
    have zero : Scsi.Sense.zero = sense := keeps.sense _ (by rw [held]; rfl)
    exact receiveCommand_keeps keeps (by rw [held]; rfl) (t := {}) zero urb
  | executing generation => exact keeps.same rfl rfl
  | held phase t =>
    cases phase with
    | ready => exact receiveCommand_keeps keeps (by rw [held]; rfl) (keeps.sense_eq held) urb
    | dataFromHost => exact receiveData_keeps keeps held urb
    | dataToHost | status => exact keeps.same rfl rfl

theorem sendStatus_keeps (keeps : Keeps sense d) {t : Transaction} (same : t.sense = sense)
    (urb : Urb) : Keeps sense (d.sendStatus t urb).1 := by
  unfold sendStatus
  split
  · exact keeps.same rfl rfl
  · rw [← same]
    exact keeps.past (t := t.rewound) rfl (by decide) rfl

theorem sendEarlyStatus_keeps (keeps : Keeps sense d) {t : Transaction}
    (held : d.slot = .held .dataFromHost t) (urb : Urb) :
    Keeps ((d.movesNews .bulkIn (d.sendEarlyStatus t urb).2).foldl News.retained sense)
      (d.sendEarlyStatus t urb).1 := by
  have stage : d.slot.stage = .dataFromHost := by rw [held]; rfl
  have logged : Keeps sense (d.log (.dataCutShort t.offset t.declared)) := keeps.same rfl rfl
  unfold sendEarlyStatus
  by_cases early : urb.requested = StatusWrapper.encodedLength
  · rw [if_neg (fun other => other early)]
    dsimp only
    split
    · -- A read for exactly a status wrapper is always answered with one.
      have answered : ¬ (urb.requested < StatusWrapper.encodedLength ∨
          (StatusWrapper.encodedLength < urb.requested ∧ urb.shortNotOk)) := by omega
      unfold sendStatus
      rw [if_neg answered, movesNews_complete stage]
      exact keeps.past (t := ((t.started 0).finished (Scsi.Outcome.good 0)).rewound) rfl
        (by decide) rfl
    · have started := startCommand_keeps logged t t.offset
      rw [keeps.sincere t held] at started
      exact started
  · rw [if_pos early]
    exact keeps.same rfl rfl

theorem movesNews_nothing {phase : Phase} {t : Transaction} (held : d.slot = .held phase t)
    (past : phase ≠ .dataFromHost) (disposition : Disposition) :
    d.movesNews .bulkIn disposition = [] := by
  have stage : d.slot.stage = phase.stage := by rw [held]; rfl
  cases disposition with
  | complete moved =>
    rw [movesNews_complete stage]
    cases phase with
    | dataFromHost => exact absurd rfl past
    | ready | dataToHost | status => rfl
  | _ => rfl

theorem bulkIn_keeps (keeps : Keeps sense d) (urb : Urb) :
    Keeps ((d.movesNews .bulkIn (d.bulkIn urb).2).foldl News.retained sense) (d.bulkIn urb).1 := by
  unfold bulkIn
  split
  · exact keeps.same rfl rfl
  split
  · exact keeps.same rfl rfl
  cases held : d.slot with
  | vacant => exact keeps.same rfl rfl
  | executing generation => exact keeps.same rfl rfl
  | held phase t =>
    have same := keeps.sense_eq held
    cases phase with
    | ready => exact keeps.same rfl rfl
    | dataFromHost => exact sendEarlyStatus_keeps keeps held urb
    | dataToHost =>
      dsimp only
      rw [movesNews_nothing held (by decide)]
      unfold sendData
      rw [List.foldl_nil, ← same]
      split
      · exact keeps.past rfl (by decide) rfl
      · dsimp only
        refine keeps.past (t := t.advanced (t.chunk urb.requested).length) rfl ?_ rfl
        split <;> decide
    | status =>
      dsimp only
      rw [movesNews_nothing held (by decide)]
      exact sendStatus_keeps keeps same urb

theorem gaveUpTo_none (same : e.statistics.abandoned = d.statistics.abandoned) :
    d.gaveUpTo e = [] := by
  rw [gaveUpTo, same, if_neg (Nat.lt_irrefl _)]

theorem gaveUpTo_congr {f : Device} (same : e.statistics.abandoned = d.statistics.abandoned) :
    e.gaveUpTo f = d.gaveUpTo f := by
  rw [gaveUpTo, gaveUpTo, same]

theorem Keeps.uneventful (keeps : Keeps sense d) (slot : e.slot = d.slot)
    (submissions : e.submissions = d.submissions)
    (abandoned : e.statistics.abandoned = d.statistics.abandoned) :
    Keeps ((d.gaveUpTo e).foldl News.retained sense) e := by
  rw [gaveUpTo_none abandoned]
  exact keeps.same slot submissions

theorem Keeps.of_task (keeps : Keeps sense d) (task : SameTask d e) :
    Keeps ((d.gaveUpTo e).foldl News.retained sense) e :=
  keeps.uneventful task.slot task.submissions task.abandoned

theorem finishReset_keeps (keeps : Keeps sense d) (kind : Reset) :
    Keeps sense (d.finishReset kind) := by
  rw [finishReset_eq]
  exact keeps.rewound rfl rfl

theorem resetAs_keeps (keeps : Keeps sense d) (kind : Reset) :
    Keeps ((d.gaveUpTo (d.resetAs kind)).foldl News.retained sense) (d.resetAs kind) := by
  have abandoned : (d.resetAs kind).statistics.abandoned = d.abandon.statistics.abandoned :=
    (finishReset_sameCommand d.abandon kind).abandoned
  have slot := d.slot
  cases executing : d.slot with
  | executing generation =>
    have vacated : d.abandon.slot = .vacant ∧ d.abandon.submissions = d.submissions ∧
        d.abandon.statistics.abandoned = d.statistics.abandoned + 1 := by
      simp [abandon, executing, log]
    have gaveUp : d.gaveUpTo (d.resetAs kind) = [.gaveUp] := by
      rw [gaveUpTo, abandoned, vacated.2.2, if_pos (Nat.lt_succ_self _)]
    have left : Keeps Scsi.Sense.zero d.abandon := by
      refine ⟨?_, ?_, ?_⟩
      · intro kept same
        rw [vacated.1] at same
        exact (Option.some.inj same).symm
      · rw [vacated.1]
        exact Slot.sincere_vacant
      · rw [vacated.2.1]
        exact keeps.submissions
    rw [gaveUp]
    exact finishReset_keeps left kind
  | vacant | held phase t =>
    have rests : d.abandon = d := by
      rw [abandon, executing]
    rw [rests] at abandoned
    rw [gaveUpTo_none abandoned, resetAs, rests]
    exact finishReset_keeps keeps kind

theorem apply_keeps (keeps : Keeps sense d) (disposition : Disposition) :
    Keeps ((d.gaveUpTo (d.apply disposition).1).foldl News.retained sense)
      (d.apply disposition).1 := by
  cases disposition with
  | reconfigure urb value =>
    exact (resetAs_keeps keeps (.configuration value)).same rfl rfl
  | _ => exact keeps.uneventful rfl rfl rfl

theorem bulkOnlyReset_keeps (keeps : Keeps sense d) (urb : Urb) :
    Keeps sense (d.bulkOnlyReset urb).1 := by
  have logged : Keeps sense (d.log .bulkOnlyReset) := keeps.same rfl rfl
  unfold bulkOnlyReset
  dsimp only
  split
  · split <;> exact keeps.same rfl rfl
  · exact finishReset_keeps logged .bulkOnly

theorem handle_keeps (keeps : Keeps sense d) (address : UInt8) (urb : Urb) :
    Keeps ((d.dispatchNews address urb).foldl News.retained sense) (d.handle address urb).1 ∧
      (d.handle address urb).1.statistics.abandoned = d.statistics.abandoned := by
  unfold dispatchNews dispatchDeeds handle
  cases Pipe.ofAddress? address with
  | none => exact ⟨keeps.same rfl rfl, rfl⟩
  | some pipe =>
    cases pipe with
    | control =>
      refine ⟨?_, (control_sameCommand d urb).abandoned⟩
      change Keeps sense (d.control urb).1
      rcases control_cases d urb with replied | ⟨e, task, -, resets⟩
      · exact keeps.same replied.task.slot replied.task.submissions
      · rw [resets]
        exact bulkOnlyReset_keeps (keeps.same task.slot task.submissions) urb
    | bulkOut =>
      refine ⟨bulkOut_keeps keeps urb, ?_⟩
      change (d.bulkOut urb).1.statistics.abandoned = _
      rw [(bulkOut_frame d urb).statistics]
    | bulkIn =>
      refine ⟨bulkIn_keeps keeps urb, ?_⟩
      change (d.bulkIn urb).1.statistics.abandoned = _
      rw [(bulkIn_frame d urb).statistics]

theorem dispatch_keeps (keeps : Keeps sense d) (address : UInt8) (urb : Urb) :
    Keeps ((d.dispatchNews address urb ++ d.gaveUpTo (d.dispatch address urb).1).foldl
      News.retained sense) (d.dispatch address urb).1 := by
  obtain ⟨handled, same⟩ := handle_keeps keeps address urb
  rw [List.foldl_append, ← gaveUpTo_congr same]
  exact apply_keeps handled (d.handle address urb).2

theorem cancel_keeps (keeps : Keeps sense d) (id : Nat) : Keeps sense (d.cancel id) := by
  unfold cancel
  split
  · exact keeps.same rfl rfl
  split
  · exact keeps.same rfl rfl
  split <;> exact keeps.same rfl rfl

theorem restore_keeps (keeps : Keeps sense d) {saved : SavedState}
    (sincere : ∀ slot, saved.slot = .ok slot → slot.Sincere) :
    Keeps ((d.operateNews (.restore saved)).foldl News.retained sense)
      (d.operate (.restore saved)).1 := by
  cases restored : d.restore saved with
  | error cause =>
    have operated : d.operate (.restore saved) = (d, .error cause) := by simp [operate, restored]
    simp only [operateNews, operated]
    exact keeps
  | ok e =>
    have operated : d.operate (.restore saved) = (e, .done) := by simp [operate, restored]
    simp only [operateNews, operated]
    obtain ⟨slot, accepted, -, rfl⟩ := restore_eq_ok_iff.mp restored
    refine ⟨?_, sincere slot accepted, keeps.submissions⟩
    intro kept same
    exact Option.some.inj (same.symm.trans (SavedState.sense?_slot accepted))

theorem operate_keeps (keeps : Keeps sense d) {operation : Device.Operation}
    (sincere : ∀ saved slot, operation = .restore saved → saved.slot = .ok slot → slot.Sincere) :
    Keeps ((d.operateNews operation).foldl News.retained sense) (d.operate operation).1 := by
  cases operation with
  | dispatch address urb => exact dispatch_keeps keeps address urb
  | restore saved => exact restore_keeps keeps fun slot => sincere saved slot rfl
  | cancel id =>
    have same := gaveUpTo_none (cancel_sameCommand d id).abandoned
    simp only [operateNews, operate, same]
    exact cancel_keeps keeps id
  | reset =>
    have logged : Keeps sense (d.log .deviceReset) := keeps.same rfl rfl
    exact resetAs_keeps logged .device
  | setConfiguration value =>
    simp only [operateNews, operate, setConfiguration]
    split
    · exact resetAs_keeps keeps (.configuration value)
    · exact keeps.uneventful rfl rfl rfl
  | _ => exact keeps.of_task (operate_task d rfl)

theorem resume_keeps (keeps : Keeps sense d) (calm : d.slot.Calm) (urb : Urb) :
    Keeps sense (d.resume urb) := by
  obtain ⟨phase, t, held, past⟩ := calm
  have handled := bulkIn_keeps keeps urb
  rw [movesNews_nothing held past] at handled
  unfold resume
  dsimp only
  rcases bulkIn_decides d urb with ⟨halting, stalled⟩ | ⟨bytes, completed⟩ | parked
  · rw [stalled]
    exact handled.same rfl rfl
  · rw [completed]
    exact handled.same rfl rfl
  · rw [parked]
    exact handled.same rfl rfl

theorem foldl_resume_keeps (keeps : Keeps sense d) (calm : d.slot.Calm) (urbs : List Urb) :
    Keeps sense (urbs.foldl resume d) := by
  induction urbs generalizing d with
  | nil => exact keeps
  | cons urb rest ih => exact ih (resume_keeps keeps calm urb) (resume_calm calm urb).calm

theorem resumeParked_keeps (keeps : Keeps sense d) (calm : d.slot.Calm) :
    Keeps sense d.resumeParked := by
  have emptied : Keeps sense { d with parked := .empty } := keeps.same rfl rfl
  exact foldl_resume_keeps emptied calm d.parked.toList

theorem concluded_keeps (keeps : Keeps sense d) (t : Transaction) (outcome : Scsi.Outcome) :
    Keeps (t.finished outcome).sense (d.concluded t outcome) := by
  have past := Transaction.phaseAfter_ne_dataFromHost (t.finished outcome)
  have back : Keeps (t.finished outcome).sense (d.takenBack t outcome) :=
    keeps.past rfl past (takenBack_sameCommand d t outcome).submissions
  have resumed := resumeParked_keeps back ⟨_, _, rfl, past⟩
  rw [concluded_eq]
  split
  · exact finishReset_keeps resumed .bulkOnly
  · exact resumed

theorem sense_finished (command : Command) (completion : Completion) :
    ((completion.returned command).transaction.finished (completion.outcome command)).sense =
      News.retained sense (.ended command completion) := by
  cases ending : completion.ending with
  | dropped => simp [Transaction.finished, Completion.returned, Completion.outcome, News.retained,
      ending, Scsi.Outcome.checkCondition, Scsi.Status.checkCondition, Scsi.Status.isGood,
      Scsi.Status.good]
  | ended status transferred retry =>
    simp [Transaction.finished, Completion.returned, Completion.outcome, News.retained, ending]

theorem settle_keeps (keeps : Keeps sense d) (command : Command) (completion : Completion) :
    Keeps ((d.settleNews command completion).foldl News.retained sense)
      (d.settle command completion) := by
  by_cases executing : d.slot = .executing command.generation
  · have heard : Keeps sense { d with events := d.events ++ completion.events command } :=
      keeps.same rfl rfl
    rw [settleNews, if_pos executing, settle_executing completion executing, List.foldl_cons,
      List.foldl_nil, ← sense_finished]
    exact concluded_keeps heard _ _
  · rw [settleNews, if_neg executing, settle_stale completion executing]
    exact keeps.same rfl rfl

end Device

end BulkOnly
