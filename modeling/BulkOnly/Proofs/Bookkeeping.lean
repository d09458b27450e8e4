import BulkOnly.Proofs.Agreement
import BulkOnly.Proofs.Lockstep

set_option autoImplicit false

namespace BulkOnly

open Account

def Slot.Shows (slot : Slot) (pool : List Command) (account : Option Account) : Prop :=
  match slot with
  | .vacant => account = none
  | .held phase t => Fits account phase t
  | .executing generation =>
    ∃ a, account = some a ∧
      ∀ command ∈ pool, command.generation = generation → Underway a command.transaction

theorem Slot.Shows.rewound {slot : Slot} {pool : List Command} (idle : slot.generation? = none) :
    slot.rewound.Shows pool none := by
  cases slot with
  | vacant | held phase t => rfl
  | executing generation => cases idle

namespace Device

-- `waiting` are the commands that the target has; those still to be submitted are the device's.
structure Shows (d : Device) (waiting : List Command) (account : Option Account) : Prop where
  below : ∀ command ∈ waiting ++ d.submissions, command.generation < d.nextGeneration
  slot : d.slot.Shows (waiting ++ d.submissions) account

structure Tells (account : Option Account) (deeds : List Deed) (d : Device)
    (waiting : List Command) : Prop where
  lawful : Lawful account deeds
  shows : d.Shows waiting (deeds.foldl next account)

variable {d e : Device} {waiting : List Command} {account : Option Account}

namespace Shows

theorem kept (shows : d.Shows waiting account) (slot : e.slot = d.slot)
    (next : e.nextGeneration = d.nextGeneration) (submissions : e.submissions = d.submissions) :
    e.Shows waiting account := by
  obtain ⟨below, held⟩ := shows
  rw [← submissions] at below held
  rw [← next] at below
  rw [← slot] at held
  exact ⟨below, held⟩

theorem of_task (shows : d.Shows waiting account) (task : SameTask d e) :
    e.Shows waiting account := shows.kept task.slot task.next task.submissions

theorem held (shows : d.Shows waiting account) {after : Option Account} {phase : Phase}
    {t : Transaction} (fits : Fits after phase t) :
    Shows { d with slot := .held phase t } waiting after := ⟨shows.below, fits⟩

theorem ready (shows : d.Shows waiting account) (t : Transaction) :
    Shows { d with slot := .held .ready t } waiting none := ⟨shows.below, rfl⟩

theorem giving (shows : d.Shows waiting account) {a : Account} {t : Transaction}
    (giving : Giving a t) : Shows { d with slot := .held .dataToHost t } waiting (some a) :=
  ⟨shows.below, a, rfl, giving⟩

theorem closing (shows : d.Shows waiting account) {a : Account} {t : Transaction}
    (closing : Closing a t) : Shows { d with slot := .held .status t } waiting (some a) :=
  ⟨shows.below, a, rfl, closing⟩

theorem taking (shows : d.Shows waiting account) {a : Account} {t : Transaction}
    (taking : Taking a t) : Shows { d with slot := .held .dataFromHost t } waiting (some a) :=
  ⟨shows.below, a, rfl, taking⟩

theorem fits (shows : d.Shows waiting account) {phase : Phase} {t : Transaction}
    (held : d.slot = .held phase t) : Fits account phase t := by
  have slot := shows.slot
  rw [held] at slot
  exact slot

-- No other command has the generation of a new one.
theorem startCommand (shows : d.Shows waiting account) {a : Account} {t : Transaction}
    {length : Nat} (sound : t.Sound) (underway : Underway a (t.started length)) :
    (d.startCommand t length).Shows waiting (some a) := by
  unfold Device.startCommand
  split
  next asks => exact (shows.held (underway.answered sound asks)).kept rfl rfl rfl
  next =>
    have either {command : Command} (member : command ∈ waiting ++
        (d.submissions ++ [⟨d.nextGeneration, t.started length⟩])) :
        command ∈ waiting ++ d.submissions ∨ command = ⟨d.nextGeneration, t.started length⟩ := by
      simpa [or_assoc] using member
    refine ⟨?_, a, rfl, ?_⟩
    · intro command member
      change command.generation < d.nextGeneration + 1
      rcases either member with old | rfl
      · exact Nat.lt_succ_of_lt (shows.below command old)
      · exact Nat.lt_succ_self _
    · intro command member same
      rcases either member with old | rfl
      · have less := shows.below command old
        omega
      · exact underway

end Shows

namespace Tells

theorem nothing (shows : d.Shows waiting account) : Tells account [] d waiting := ⟨trivial, shows⟩

theorem trans {earlier later : List Deed} {waiting' : List Command}
    (first : Tells account earlier d waiting)
    (second : d.Shows waiting (earlier.foldl next account) →
      Tells (earlier.foldl next account) later e waiting') :
    Tells account (earlier ++ later) e waiting' := by
  obtain ⟨lawful, shows⟩ := second first.shows
  refine ⟨lawful_append.mpr ⟨first.lawful, lawful⟩, ?_⟩
  rw [List.foldl_append]
  exact shows

theorem kept {deeds : List Deed} (tells : Tells account deeds d waiting) (slot : e.slot = d.slot)
    (next : e.nextGeneration = d.nextGeneration) (submissions : e.submissions = d.submissions) :
    Tells account deeds e waiting := ⟨tells.lawful, tells.shows.kept slot next submissions⟩

end Tells

theorem receiveCommand_tells (shows : d.Shows waiting none) (ready : d.slot.stage = .ready)
    (t : Transaction) (urb : Urb) :
    Tells none (d.moves .bulkOut (d.receiveCommand t urb).2) (d.receiveCommand t urb).1
      waiting := by
  unfold receiveCommand
  cases parsed : CommandWrapper.parse urb.payload with
  | error reason => exact .nothing (shows.kept rfl rfl rfl)
  | ok wrapper =>
    dsimp only
    split
    · exact .nothing (shows.kept rfl rfl rfl)
    split
    · exact .nothing ((shows.ready t).kept rfl rfl rfl)
    have sound := Transaction.Sound.opened t parsed
    have opening : next none (.moved .bulkOut .ready urb) = some { wrapper } := by
      simp [next, parsed, Except.toOption]
    have allowed : Allows none (.moved .bulkOut .ready urb) := ⟨rfl, wrapper, parsed⟩
    have logged : (d.log (.commandAccepted wrapper)).Shows waiting none := shows.kept rfl rfl rfl
    split
    next writes =>
      have taking : Taking { wrapper } (t.opened wrapper) := by
        refine ⟨sound, rfl, writes.1, writes.1, ?_, rfl, rfl, rfl⟩
        intro zero
        exact writes.2 (UInt32.toNat_inj.mp zero)
      refine ⟨?_, ?_⟩
      · simp only [moves, ready]
        exact ⟨allowed, trivial⟩
      · simp only [moves, ready, List.foldl_cons, List.foldl_nil, opening]
        exact logged.taking taking
    next other =>
      have underway : Underway { wrapper }
          ((t.opened wrapper).started wrapper.transferLength.toNat) := by
        refine ⟨sound.started (Nat.le_refl _), rfl, rfl, ?_, fun _ => rfl, rfl, rfl⟩
        unfold commandLength
        split
        · rfl
        next writes =>
          have zero : wrapper.transferLength = 0 := by
            by_contra some_length
            exact other ⟨writes, some_length⟩
          simp [Transaction.started, zero, received, takenBytes]
      refine ⟨?_, ?_⟩
      · simp only [moves, ready]
        exact ⟨allowed, trivial⟩
      · simp only [moves, ready, List.foldl_cons, List.foldl_nil, opening]
        exact logged.startCommand sound underway

theorem receiveData_tells (shows : d.Shows waiting account) {t : Transaction}
    (held : d.slot = .held .dataFromHost t) (urb : Urb) :
    Tells account (d.moves .bulkOut (d.receiveData t urb).2) (d.receiveData t urb).1 waiting := by
  obtain ⟨a, rfl, taking⟩ : Fits account .dataFromHost t := shows.fits held
  have stage : d.slot.stage = .dataFromHost := by rw [held]; rfl
  unfold receiveData
  cases taken : t.received? urb.payload with
  | none => exact .nothing (shows.kept rfl rfl rfl)
  | some next =>
    have after := taking.takes taken
    dsimp only
    split
    next whole =>
      have length : next.offset = next.declared := of_decide_eq_true whole
      refine ⟨?_, ?_⟩
      · simp only [moves, stage]
        exact ⟨trivial, trivial⟩
      · simp only [moves, stage, List.foldl_cons, List.foldl_nil]
        rw [← length]
        exact shows.startCommand after.sound after.underway
    next =>
      refine ⟨?_, ?_⟩
      · simp only [moves, stage]
        exact ⟨trivial, trivial⟩
      · simp only [moves, stage, List.foldl_cons, List.foldl_nil]
        exact shows.taking after

theorem bulkOut_tells (shows : d.Shows waiting account) (urb : Urb) :
    Tells account (d.moves .bulkOut (d.bulkOut urb).2) (d.bulkOut urb).1 waiting := by
  unfold bulkOut
  split
  · exact .nothing (shows.kept rfl rfl rfl)
  split
  · exact .nothing (shows.kept rfl rfl rfl)
  cases held : d.slot with
  | vacant =>
    obtain rfl : account = none := by
      have fits := shows.slot
      rw [held] at fits
      exact fits
    exact receiveCommand_tells shows (by rw [held]; rfl) {} urb
  | executing generation => exact .nothing (shows.kept rfl rfl rfl)
  | held phase t =>
    cases phase with
    | ready =>
      obtain rfl : account = none := shows.fits held
      exact receiveCommand_tells shows (by rw [held]; rfl) t urb
    | dataFromHost => exact receiveData_tells shows held urb
    | dataToHost | status => exact .nothing (shows.kept rfl rfl rfl)

theorem sendData_tells (shows : d.Shows waiting account) {t : Transaction}
    (held : d.slot = .held .dataToHost t) (urb : Urb) :
    Tells account (d.moves .bulkIn (d.sendData t urb).2) (d.sendData t urb).1 waiting := by
  obtain ⟨a, rfl, giving⟩ : Fits account .dataToHost t := shows.fits held
  have stage : d.slot.stage = .dataToHost := by rw [held]; rfl
  unfold sendData
  split
  · exact .nothing ((shows.closing giving.closing).kept rfl rfl rfl)
  · have length : (urb.filled (t.chunk urb.requested)).len = (t.chunk urb.requested).length := rfl
    have after := giving.sends urb.requested length
    refine ⟨?_, ?_⟩
    · simp only [moves, stage]
      exact ⟨trivial, trivial⟩
    · simp only [moves, stage, List.foldl_cons, List.foldl_nil]
      split
      · exact shows.closing after.closing
      · exact shows.giving after

theorem sendStatus_tells {a : Account} (shows : d.Shows waiting (some a))
    (stage : d.slot.stage = .status ∨ d.slot.stage = .dataFromHost) {t : Transaction}
    (closing : Closing a t) (urb : Urb) :
    Tells (some a) (d.moves .bulkIn (d.sendStatus t urb).2) (d.sendStatus t urb).1 waiting := by
  have closed : a.ClosedBy (urb.filled t.statusWrapper.encode) := by
    refine ⟨t.statusWrapper, urb.payload_filled _, ?_, ?_⟩
    · rw [← closing.wrapper]
      rfl
    · rw [t.toNat_residue_statusWrapper]
      exact closing.settled
  unfold sendStatus
  split
  · exact .nothing (shows.kept rfl rfl rfl)
  · have after : Shows (log { d with slot := .held .ready t.rewound }
        (.statusSent t.statusWrapper)) waiting none :=
      (shows.ready t.rewound).kept rfl rfl rfl
    rcases stage with stage | stage
    · simp only [moves, stage]
      exact ⟨⟨⟨a, rfl, closed⟩, trivial⟩, after⟩
    · simp only [moves, stage]
      exact ⟨⟨⟨a, rfl, closed⟩, trivial⟩, after⟩

theorem sendEarlyStatus_tells (shows : d.Shows waiting account) {t : Transaction}
    (held : d.slot = .held .dataFromHost t) (urb : Urb) :
    Tells account (d.moves .bulkIn (d.sendEarlyStatus t urb).2) (d.sendEarlyStatus t urb).1
      waiting := by
  obtain ⟨a, rfl, taking⟩ : Fits account .dataFromHost t := shows.fits held
  have stage : d.slot.stage = .dataFromHost := by rw [held]; rfl
  have logged : (d.log (.dataCutShort t.offset t.declared)).Shows waiting (some a) :=
    shows.kept rfl rfl rfl
  unfold sendEarlyStatus
  split
  · exact .nothing (shows.kept rfl rfl rfl)
  dsimp only
  split
  next nothing =>
    exact sendStatus_tells (d := d.log (.dataCutShort t.offset t.declared)) logged (.inr stage)
      (taking.closing nothing) urb
  next => exact .nothing (logged.startCommand taking.sound taking.underway)

theorem bulkIn_tells (shows : d.Shows waiting account) (urb : Urb) :
    Tells account (d.moves .bulkIn (d.bulkIn urb).2) (d.bulkIn urb).1 waiting := by
  unfold bulkIn
  split
  · exact .nothing (shows.kept rfl rfl rfl)
  split
  · exact .nothing (shows.kept rfl rfl rfl)
  cases held : d.slot with
  | vacant => exact .nothing (shows.kept rfl rfl rfl)
  | executing generation => exact .nothing shows
  | held phase t =>
    cases phase with
    | ready => exact .nothing (shows.kept rfl rfl rfl)
    | dataFromHost => exact sendEarlyStatus_tells shows held urb
    | dataToHost => exact sendData_tells shows held urb
    | status =>
      obtain ⟨a, rfl, closing⟩ : Fits account .status t := shows.fits held
      exact sendStatus_tells shows (.inl (by rw [held]; rfl)) closing urb

theorem resetsTo_none (same : e.statistics.resets = d.statistics.resets) : d.resetsTo e = [] := by
  rw [resetsTo, same, Nat.sub_self]
  rfl

theorem resetsTo_one (one : e.statistics.resets = d.statistics.resets + 1) :
    d.resetsTo e = [.reset] := by
  rw [resetsTo, one, Nat.add_sub_cancel_left]
  rfl

theorem Shows.still (shows : d.Shows waiting account) (slot : e.slot = d.slot)
    (next : e.nextGeneration = d.nextGeneration) (submissions : e.submissions = d.submissions)
    (resets : e.statistics.resets = d.statistics.resets) :
    Tells account (d.resetsTo e) e waiting := by
  rw [resetsTo_none resets]
  exact .nothing (shows.kept slot next submissions)

theorem Shows.untouched (shows : d.Shows waiting account) (task : SameTask d e) :
    Tells account (d.resetsTo e) e waiting :=
  shows.still task.slot task.next task.submissions task.resets

theorem Tells.counted {f : Device} (tells : Tells account [.reset] e waiting)
    (one : e.statistics.resets = d.statistics.resets + 1) (slot : f.slot = e.slot)
    (next : f.nextGeneration = e.nextGeneration) (submissions : f.submissions = e.submissions)
    (resets : f.statistics.resets = e.statistics.resets) :
    Tells account (d.resetsTo f) f waiting := by
  rw [resetsTo_one (resets.trans one)]
  exact tells.kept slot next submissions

-- Whatever was on record, a reset closes it.
theorem finishReset_tells
    (below : ∀ command ∈ waiting ++ d.submissions, command.generation < d.nextGeneration)
    (idle : d.slot.generation? = none) (kind : Reset) :
    Tells account [.reset] (d.finishReset kind) waiting := by
  refine ⟨⟨trivial, trivial⟩, ?_⟩
  rw [finishReset_eq]
  exact ⟨below, Slot.Shows.rewound idle⟩

theorem resets_finishReset (d : Device) (kind : Reset) :
    (d.finishReset kind).statistics.resets = d.statistics.resets + 1 := by
  rw [finishReset_eq]

theorem resetAs_tells (shows : d.Shows waiting account) (kind : Reset) :
    Tells account [.reset] (d.resetAs kind) waiting ∧
      (d.resetAs kind).statistics.resets = d.statistics.resets + 1 := by
  have abandoned : d.abandon.slot.generation? = none ∧
      d.abandon.nextGeneration = d.nextGeneration ∧ d.abandon.submissions = d.submissions ∧
      d.abandon.statistics.resets = d.statistics.resets := by
    unfold abandon
    cases held : d.slot with
    | vacant | held phase t => exact ⟨by rw [held]; rfl, rfl, rfl, rfl⟩
    | executing generation => exact ⟨rfl, rfl, rfl, rfl⟩
  obtain ⟨idle, next, submissions, resets⟩ := abandoned
  have below := shows.below
  rw [← next, ← submissions] at below
  refine ⟨finishReset_tells below idle kind, ?_⟩
  rw [resetAs, resets_finishReset, resets]

theorem bulkOnlyReset_tells (shows : d.Shows waiting account) (urb : Urb) :
    Tells account (d.resetsTo ((d.bulkOnlyReset urb).1.apply (d.bulkOnlyReset urb).2).1)
      ((d.bulkOnlyReset urb).1.apply (d.bulkOnlyReset urb).2).1 waiting := by
  unfold bulkOnlyReset
  dsimp only
  split
  · split <;> exact shows.still rfl rfl rfl rfl
  next idle =>
    have none_executing : (d.log .bulkOnlyReset).slot.generation? = none := by
      rw [Slot.isExecuting_eq_isSome] at idle
      exact Option.not_isSome_iff_eq_none.mp idle
    have below : ∀ command ∈ waiting ++ (d.log .bulkOnlyReset).submissions,
        command.generation < (d.log .bulkOnlyReset).nextGeneration := shows.below
    have tells : Tells account [.reset] ((d.log .bulkOnlyReset).finishReset .bulkOnly) waiting :=
      finishReset_tells below none_executing .bulkOnly
    exact tells.counted (resets_finishReset (d.log .bulkOnlyReset) .bulkOnly) rfl rfl rfl rfl

theorem control_tells (shows : d.Shows waiting account) (urb : Urb) :
    Tells account (d.resetsTo ((d.control urb).1.apply (d.control urb).2).1)
      ((d.control urb).1.apply (d.control urb).2).1 waiting := by
  rcases control_cases d urb with ⟨task, -, answers⟩ | ⟨e, task, -, resets⟩
  · cases decided : (d.control urb).2 with
    | complete moved | stall moved halting | fault =>
      exact shows.still task.slot task.next task.submissions task.resets
    | park moved | hold moved =>
      rw [decided] at answers
      exact answers.elim
    | reconfigure moved value =>
      obtain ⟨tells, one⟩ := resetAs_tells (shows.of_task task) (.configuration value)
      rw [task.resets] at one
      exact tells.counted one rfl rfl rfl rfl
  · have same (f : Device) : d.resetsTo f = e.resetsTo f := by
      rw [resetsTo, resetsTo, task.resets]
    rw [resets, same]
    exact bulkOnlyReset_tells (shows.of_task task) urb

theorem resume_tells (shows : d.Shows waiting account) (urb : Urb) :
    Tells account (d.moves .bulkIn (d.bulkIn urb).2) (d.resume urb) waiting := by
  have tells := bulkIn_tells shows urb
  unfold resume
  dsimp only
  rcases bulkIn_decides d urb with ⟨halting, stalled⟩ | ⟨bytes, completed⟩ | parked
  · rw [stalled] at tells ⊢
    exact tells.kept rfl rfl rfl
  · rw [completed] at tells ⊢
    exact tells.kept rfl rfl rfl
  · rw [parked] at tells ⊢
    exact tells.kept rfl rfl rfl

theorem foldl_resume_tells (shows : d.Shows waiting account) (urbs : List Urb) :
    Tells account (d.resumeDeeds urbs) (urbs.foldl resume d) waiting := by
  induction urbs generalizing d account with
  | nil => exact .nothing shows
  | cons urb rest ih => exact (resume_tells shows urb).trans fun shows => ih shows

theorem resumeParked_tells (shows : d.Shows waiting account) :
    Tells account (resumeDeeds { d with parked := .empty } d.parked.toList) d.resumeParked waiting ∧
      d.resumeParked.statistics.resets = d.statistics.resets := by
  have emptied : Shows { d with parked := .empty } waiting account := shows.kept rfl rfl rfl
  exact ⟨foldl_resume_tells emptied d.parked.toList, foldl_resume_resets _ d.parked.toList⟩

theorem dispatch_tells (shows : d.Shows waiting account) (address : UInt8) (urb : Urb) :
    Tells account (d.dispatchDeeds address urb ++ d.resetsTo (d.dispatch address urb).1)
      (d.dispatch address urb).1 waiting := by
  unfold dispatchDeeds dispatch handle
  cases Pipe.ofAddress? address with
  | none => exact shows.still rfl rfl rfl rfl
  | some pipe =>
    cases pipe with
    | control => exact control_tells shows urb
    | bulkIn =>
      have tells := resume_tells shows urb
      have resets := resume_resets d urb
      have same : d.resetsTo ((d.bulkIn urb).1.apply (d.bulkIn urb).2).1 = [] :=
        resetsTo_none resets
      dsimp only
      rw [same, List.append_nil]
      exact tells
    | bulkOut =>
      have tells := bulkOut_tells shows urb
      have resets := (bulkOut_frame d urb).resets
      dsimp only
      rcases bulkOut_decides d urb with ⟨halting, stalled⟩ | completed
      · have same : d.resetsTo ((d.bulkOut urb).1.apply (.stall urb halting)).1 = [] :=
          resetsTo_none resets
        rw [stalled] at tells ⊢
        rw [same, List.append_nil]
        exact tells.kept rfl rfl rfl
      · have same : d.resetsTo ((d.bulkOut urb).1.apply (.complete urb)).1 = [] :=
          resetsTo_none resets
        rw [completed] at tells ⊢
        rw [same, List.append_nil]
        exact tells.kept rfl rfl rfl

theorem operate_tells (shows : d.Shows waiting account) {operation : Device.Operation}
    (fresh : ∀ saved, operation ≠ .restore saved) :
    Tells account (d.operateDeeds operation) (d.operate operation).1 waiting := by
  cases operation with
  | dispatch address urb => exact dispatch_tells shows address urb
  | restore saved => exact absurd rfl (fresh saved)
  | cancel id =>
    change Tells account (d.resetsTo (d.cancel id)) (d.cancel id) waiting
    unfold cancel
    split
    · exact shows.still rfl rfl rfl rfl
    split
    · exact shows.still rfl rfl rfl rfl
    split <;> exact shows.still rfl rfl rfl rfl
  | reset =>
    have logged : (d.log .deviceReset).Shows waiting account := shows.kept rfl rfl rfl
    obtain ⟨tells, one⟩ := resetAs_tells logged .device
    exact tells.counted one rfl rfl rfl rfl
  | setConfiguration value =>
    change Tells account (d.resetsTo (d.setConfiguration value)) (d.setConfiguration value) waiting
    unfold setConfiguration
    split
    · obtain ⟨tells, one⟩ := resetAs_tells shows (.configuration value)
      exact tells.counted one rfl rfl rfl rfl
    · exact shows.still rfl rfl rfl rfl
  | _ => exact shows.untouched (operate_task d rfl)

theorem takenBack_tells {a : Account} (shows : d.Shows waiting (some a)) {command : Command}
    (underway : Underway a command.transaction) (completion : Completion) :
    Tells (some a) [.ended command.length completion.ending]
      (d.takenBack (completion.returned command).transaction (completion.outcome command))
      waiting := by
  have same : (completion.returned command).transaction.length = command.length := by
    unfold Completion.returned
    split <;> rfl
  have fits := (underway.returned completion).finished (completion.isGood_outcome command)
    (by rw [same]; exact completion.transferred_outcome command)
  rw [same] at fits
  refine ⟨⟨trivial, trivial⟩, ?_⟩
  unfold takenBack
  split <;> exact (shows.held fits).kept rfl rfl rfl

theorem concluded_tells {a : Account} (shows : d.Shows waiting (some a)) {command : Command}
    (underway : Underway a command.transaction) (completion : Completion) {back : Device}
    (returns : back = d.takenBack (completion.returned command).transaction
      (completion.outcome command)) :
    Tells (some a)
      (.ended command.length completion.ending ::
        (resumeDeeds { back with parked := .empty } back.parked.toList ++
          d.resetsTo (d.concluded (completion.returned command).transaction
            (completion.outcome command))))
      (d.concluded (completion.returned command).transaction (completion.outcome command))
      waiting := by
  have told := takenBack_tells shows underway completion
  have counted := (takenBack_frame d (completion.returned command).transaction
    (completion.outcome command)).resets
  have calm : back.slot.Calm := by
    rw [returns]
    exact ⟨_, _, rfl, Transaction.phaseAfter_ne_dataFromHost _⟩
  rw [concluded_eq]
  rw [← returns] at told counted ⊢
  obtain ⟨resumed, resets⟩ := resumeParked_tells told.shows
  have idle := (resumeParked_calm calm).1.idle
  refine told.trans fun _ => resumed.trans fun shows => ?_
  split
  · have one : (back.resumeParked.finishReset .bulkOnly).statistics.resets =
        d.statistics.resets + 1 := by rw [resets_finishReset, resets, counted]
    rw [resetsTo_one one]
    exact finishReset_tells shows.below idle .bulkOnly
  · rw [resetsTo_none (resets.trans counted)]
    exact .nothing shows

theorem settle_tells (shows : d.Shows waiting account) {command : Command}
    (member : command ∈ waiting ++ d.submissions) (completion : Completion) :
    Tells account (d.settleDeeds command completion) (d.settle command completion) waiting := by
  by_cases executing : d.slot = .executing command.generation
  · obtain ⟨a, rfl, current⟩ : ∃ a, account = some a ∧ ∀ other ∈ waiting ++ d.submissions,
        other.generation = command.generation → Underway a other.transaction := by
      have slot := shows.slot
      rw [executing] at slot
      exact slot
    have heard :
        Shows { d with events := d.events ++ completion.events command } waiting (some a) :=
      shows.kept rfl rfl rfl
    rw [settleDeeds, if_pos executing, settle_executing completion executing]
    exact concluded_tells heard (current command member rfl) completion rfl
  · rw [settleDeeds, if_neg executing, settle_stale completion executing]
    exact .nothing (shows.kept rfl rfl rfl)

theorem Shows.fewer (shows : d.Shows waiting account) {fewer : List Command}
    (among : ∀ command ∈ fewer, command ∈ waiting) : d.Shows fewer account := by
  have either {command : Command} (member : command ∈ fewer ++ d.submissions) :
      command ∈ waiting ++ d.submissions := by
    rcases List.mem_append.mp member with kept | submitted
    · exact List.mem_append_left _ (among command kept)
    · exact List.mem_append_right _ submitted
  refine ⟨fun command member => shows.below command (either member), ?_⟩
  have slot := shows.slot
  cases held : d.slot with
  | vacant | held phase t =>
    rw [held] at slot
    exact slot
  | executing generation =>
    rw [held] at slot
    obtain ⟨a, same, current⟩ := slot
    exact ⟨a, same, fun command member => current command (either member)⟩

end Device

namespace System

open Device

variable {s : System} {account : Option Account}

theorem submit_tells {command : Command} {rest : List Command}
    (shows : s.device.Shows (s.waiting ++ command :: rest) account) :
    Tells account (s.submitDeeds command) (s.submit command).device
      ((s.submit command).waiting ++ rest) := by
  have logged (event : Event) : (s.device.log event).Shows (s.waiting ++ command :: rest) account :=
    shows.kept rfl rfl rfl
  cases taken : s.target.take.2 with
  | none =>
    simp only [submitDeeds, submit, taken]
    refine .nothing ((logged _).fewer ?_)
    intro other member
    simpa using member
  | some completion =>
    have member : command ∈ (s.waiting ++ command :: rest) ++ s.device.submissions := by simp
    simp only [submitDeeds, submit, taken]
    obtain ⟨lawful, settled⟩ := settle_tells (logged _) member completion
    refine ⟨lawful, settled.fewer ?_⟩
    intro other member
    rcases List.mem_append.mp member with old | later
    · exact List.mem_append_left _ old
    · exact List.mem_append_right _ (.tail _ later)

theorem submits_tells {commands : List Command}
    (shows : s.device.Shows (s.waiting ++ commands) account) :
    Tells account (s.submitsDeeds commands) (commands.foldl submit s).device
      (commands.foldl submit s).waiting := by
  induction commands generalizing s account with
  | nil =>
    rw [List.append_nil] at shows
    exact .nothing shows
  | cons command rest ih =>
    have first := submit_tells shows
    exact first.trans ih

theorem release_tells (shows : s.device.Shows s.waiting account) (answer : Answer) :
    Tells account s.releaseDeeds (s.release answer).system.device
      (s.release answer).system.waiting := by
  have drained : Shows { s.device with submissions := [] } (s.waiting ++ s.device.submissions)
      account := by
    obtain ⟨below, slot⟩ := shows
    rw [← List.append_nil (s.waiting ++ s.device.submissions)] at below slot
    exact ⟨below, slot⟩
  have tells := submits_tells (s := { s with device.submissions := [] }) drained
  exact tells.kept rfl rfl rfl

theorem operated_tells (shows : s.device.Shows s.waiting account) {operation : Device.Operation}
    (fresh : ∀ saved, operation ≠ .restore saved) :
    Tells account (s.device.operateDeeds operation ++ (s.operated operation).releaseDeeds)
      (s.operate operation).system.device (s.operate operation).system.waiting := by
  rw [operate_eq]
  exact (operate_tells shows fresh).trans fun shows =>
    release_tells (s := s.operated operation) shows _

theorem completed_tells (shows : s.device.Shows s.waiting account) {index : Nat}
    {command : Command} (found : s.waiting[index]? = some command) (completion : Completion)
    (answer : Answer) :
    Tells account
      (s.device.settleDeeds command completion ++
        releaseDeeds
          { s with
            device := s.device.settle command completion
            waiting := s.waiting.eraseIdx index })
      (release
        { s with
          device := s.device.settle command completion
          waiting := s.waiting.eraseIdx index } answer).system.device
      (release
        { s with
          device := s.device.settle command completion
          waiting := s.waiting.eraseIdx index } answer).system.waiting := by
  have member : command ∈ s.waiting ++ s.device.submissions :=
    List.mem_append_left _ (List.mem_of_getElem? found)
  obtain ⟨lawful, settled⟩ := settle_tells shows member completion
  have left := settled.fewer fun other (still : other ∈ s.waiting.eraseIdx index) =>
    List.mem_of_mem_eraseIdx still
  have ended : Tells account (s.device.settleDeeds command completion)
      (s.device.settle command completion) (s.waiting.eraseIdx index) := ⟨lawful, left⟩
  exact ended.trans fun shows => release_tells
    (s := { s with
      device := s.device.settle command completion
      waiting := s.waiting.eraseIdx index }) shows answer

theorem perform_tells (shows : s.device.Shows s.waiting account) {operation : Operation}
    (fresh : ∀ saved, operation ≠ .device (.restore saved)) :
    Tells account (s.performDeeds operation) (s.perform operation).system.device
      (s.perform operation).system.waiting := by
  rcases perform_cases s operation with ⟨asked, rfl, working, performed⟩ |
    ⟨index, completion, command, rfl, working, found, performed⟩ | unheard
  · have other : ∀ saved, asked ≠ .restore saved := by
      rintro saved rfl
      exact fresh saved rfl
    simp only [performDeeds, perform, working]
    exact operated_tells shows other
  · rw [performed, performDeeds_complete found working]
    exact completed_tells shows found completion .done
  · rw [performDeeds_unheard unheard, unheard.device]
    exact .nothing (shows.fewer fun _ still => unheard.waiting still)

theorem play_tells (shows : s.device.Shows s.waiting account) {turns : List Turn}
    (fresh : ∀ turn ∈ turns, ∀ saved, turn.operation ≠ .device (.restore saved)) :
    Tells account (s.deeds turns) (s.play turns).device (s.play turns).waiting := by
  induction turns generalizing s account with
  | nil => exact .nothing shows
  | cons turn rest ih =>
    obtain ⟨now, later⟩ := List.forall_mem_cons.mp fresh
    have first := perform_tells (s := { s with target := turn.target }) shows now
    exact first.trans fun shows => ih shows later

end System

end BulkOnly
