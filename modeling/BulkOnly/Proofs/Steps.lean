import BulkOnly.Proofs.Moments

set_option autoImplicit false

namespace BulkOnly

theorem Slot.rewound_or_ready (slot : Slot) :
    slot.rewound = slot ∨ slot.rewound.stage = .ready := by
  cases slot with
  | vacant | executing => exact .inl rfl
  | held => exact .inr rfl

namespace Device

variable {d e f : Device}

structure Aside (d e : Device) : Prop where
  settings : e.settings = d.settings
  slot : e.slot = d.slot ∨ e.slot.stage = .ready
  submissions : e.submissions = d.submissions

namespace Aside

theorem of_same (settings : e.settings = d.settings) (slot : e.slot = d.slot)
    (submissions : e.submissions = d.submissions) : Aside d e :=
  ⟨settings, .inl slot, submissions⟩

theorem refl (d : Device) : Aside d d := .of_same rfl rfl rfl

theorem trans (first : Aside d e) (second : Aside e f) : Aside d f where
  settings := second.settings.trans first.settings
  slot := by
    rcases second.slot with same | ready
    · rw [same]
      exact first.slot
    · exact .inr ready
  submissions := second.submissions.trans first.submissions

end Aside

theorem finishReset_aside (d : Device) (kind : Reset) : Aside d (d.finishReset kind) := by
  rw [finishReset_eq]
  exact ⟨rfl, d.slot.rewound_or_ready, rfl⟩

theorem abandon_aside (d : Device) : Aside d d.abandon := by
  unfold abandon
  split
  next => exact ⟨rfl, .inr rfl, rfl⟩
  next => exact .refl d

theorem resetAs_aside (d : Device) (kind : Reset) : Aside d (d.resetAs kind) :=
  (abandon_aside d).trans (finishReset_aside _ kind)

theorem bulkOnlyReset_aside (d : Device) (urb : Urb) : Aside d (d.bulkOnlyReset urb).1 := by
  have logged : Aside d (d.log .bulkOnlyReset) := .of_same rfl rfl rfl
  simp only [bulkOnlyReset]
  split
  next =>
    split
    next => exact .of_same rfl rfl rfl
    next => exact .of_same rfl rfl rfl
  next => exact logged.trans (finishReset_aside _ _)

theorem serve_aside (d : Device) (request : ControlRequest) (setup : Setup) (urb : Urb) :
    Aside d (d.serve request setup urb).1 := by
  cases request with
  | bulkOnlyReset => exact bulkOnlyReset_aside d urb
  | descriptor kind index language =>
    simp only [serve]
    split <;> exact .of_same rfl rfl rfl
  | configure value =>
    simp only [serve]
    split <;> exact .of_same rfl rfl rfl
  | _ => exact .of_same rfl rfl rfl

theorem control_aside (d : Device) (urb : Urb) : Aside d (d.control urb).1 := by
  simp only [control]
  split
  next => exact .of_same rfl rfl rfl
  next setup _ =>
    split
    next => exact .of_same rfl rfl rfl
    next request _ =>
      have logged : Aside d
          (log { d with halts := d.halts.set .control false } (.controlRequest setup)) :=
        .of_same rfl rfl rfl
      exact logged.trans (serve_aside _ request setup urb)

theorem apply_aside (d : Device) (disposition : Disposition) :
    Aside d (d.apply disposition).1 := by
  cases disposition with
  | reconfigure urb value =>
    have reset := resetAs_aside d (.configuration value)
    exact ⟨reset.settings, reset.slot, reset.submissions⟩
  | _ => exact .of_same rfl rfl rfl

theorem dispatch_aside {address : UInt8} (notIn : Pipe.ofAddress? address ≠ some .bulkIn)
    (notOut : Pipe.ofAddress? address ≠ some .bulkOut) (d : Device) (urb : Urb) :
    Aside d (d.dispatch address urb).1 := by
  have handled : Aside d (d.handle address urb).1 := by
    unfold handle
    split
    next => exact control_aside d urb
    next out => exact absurd out notOut
    next reads => exact absurd reads notIn
    next => exact .of_same rfl rfl rfl
  exact handled.trans (apply_aside _ _)

theorem cancel_aside (d : Device) (id : Nat) : Aside d (d.cancel id) := by
  unfold cancel
  split
  next => exact .of_same rfl rfl rfl
  next =>
    split
    next => exact .of_same rfl rfl rfl
    next =>
      split
      next => exact .of_same rfl rfl rfl
      next => exact .of_same rfl rfl rfl

theorem operate_aside {operation : Device.Operation}
    (other : ∀ address urb, operation ≠ .dispatch address urb)
    (fresh : ∀ saved, operation ≠ .restore saved) (d : Device) :
    Aside d (d.operate operation).1 := by
  have taken {urb : Urb} {e : Device} (reaped : d.reap? = some (urb, e)) : Aside d e := by
    obtain ⟨rest, -, rfl⟩ := reap?_eq_some_iff.mp reaped
    exact .of_same rfl rfl rfl
  cases operation with
  | dispatch address urb => exact absurd rfl (other address urb)
  | restore saved => exact absurd rfl (fresh saved)
  | cancel id => exact cancel_aside d id
  | reset =>
    have logged : Aside d (d.log .deviceReset) := .of_same rfl rfl rfl
    exact logged.trans (resetAs_aside _ _)
  | setConfiguration value =>
    simp only [operate, setConfiguration]
    split
    next => exact resetAs_aside d _
    next => exact .of_same rfl rfl rfl
  | clearHalt address =>
    simp only [operate, clearHalt]
    split <;> exact .of_same rfl rfl rfl
  | reap | poll =>
    simp only [operate]
    split
    next reaped => exact taken reaped
    next => exact .refl d
  | save =>
    simp only [operate]
    split <;> exact .refl d
  | wakeUp | isHalted _ | isIdle | reapAll | stream _ | setDescriptors _ | describe =>
    exact .of_same rfl rfl rfl

structure Works (d e : Device) : Prop where
  settings : e.settings = d.settings
  slot : e.slot = d.slot
  submissions : e.submissions = d.submissions

theorem Works.aside (works : Works d e) : Aside d e :=
  .of_same works.settings works.slot works.submissions

theorem apply_works (d : Device) {disposition : Disposition}
    (settled : ∀ urb value, disposition ≠ .reconfigure urb value) :
    Works d (d.apply disposition).1 := by
  cases disposition with
  | reconfigure urb value => exact absurd rfl (settled urb value)
  | _ => exact ⟨rfl, rfl, rfl⟩

theorem complain_works (d : Device) (about : Complaint) : Works d (d.complain about) :=
  ⟨rfl, rfl, rfl⟩

theorem bulkIn_refused (d : Device) {urb : Urb}
    (why : urb.direction ≠ .toHost ∨ d.halts.bulkIn = true) :
    ∃ halting, (d.bulkIn urb).2 = .stall urb halting ∧ Works d (d.bulkIn urb).1 := by
  unfold bulkIn
  split
  next => exact ⟨_, rfl, complain_works d _⟩
  next direction =>
    rw [if_pos (why.resolve_left direction)]
    exact ⟨_, rfl, complain_works d _⟩

theorem bulkOut_refused (d : Device) {urb : Urb}
    (why : urb.direction ≠ .toDevice ∨ d.halts.bulkOut = true) :
    ∃ halting, (d.bulkOut urb).2 = .stall urb halting ∧ Works d (d.bulkOut urb).1 := by
  unfold bulkOut
  split
  next => exact ⟨_, rfl, complain_works d _⟩
  next direction =>
    rw [if_pos (why.resolve_left direction)]
    exact ⟨_, rfl, complain_works d _⟩

theorem bulkIn_works (d : Device) (urb : Urb) :
    Works (d.bulkIn urb).1 ((d.bulkIn urb).1.apply (d.bulkIn urb).2).1 := by
  refine apply_works _ ?_
  rcases bulkIn_decides d urb with ⟨halting, stalled⟩ | ⟨bytes, completed⟩ | parked
  · rw [stalled]
    nofun
  · rw [completed]
    nofun
  · rw [parked]
    nofun

theorem bulkOut_works (d : Device) (urb : Urb) :
    Works (d.bulkOut urb).1 ((d.bulkOut urb).1.apply (d.bulkOut urb).2).1 := by
  refine apply_works _ ?_
  rcases bulkOut_decides d urb with ⟨halting, stalled⟩ | completed
  · rw [stalled]
    nofun
  · rw [completed]
    nofun

end Device

def Urb.handedBack (urb : Urb) (moved : Option Urb) : Urb :=
  match moved with
  | some moved => moved.finished .ok
  | none => urb.finished .stall

namespace Moment

open Device

def read? (moment : Moment) : Option Urb :=
  match moment.step with
  | .operate (.dispatch address urb) =>
    if Pipe.ofAddress? address = some .bulkIn then some urb else none
  | .resume urb => some urb
  | _ => none

def write? (moment : Moment) : Option Urb :=
  match moment.step with
  | .operate (.dispatch address urb) =>
    if Pipe.ofAddress? address = some .bulkOut then some urb else none
  | _ => none

variable {moment : Moment} {urb : Urb}

theorem after_of_read (read : moment.read? = some urb) :
    moment.after = ((moment.before.bulkIn urb).1.apply (moment.before.bulkIn urb).2).1 := by
  obtain ⟨d, step⟩ := moment
  cases step with
  | hear | finishReset => cases read
  | resume other =>
    obtain rfl := Option.some.inj read
    rfl
  | operate operation =>
    cases operation with
    | dispatch address other =>
      by_cases reads : Pipe.ofAddress? address = some .bulkIn
      · obtain rfl := Option.some.inj ((if_pos reads).symm.trans read)
        have handled : d.handle address other = d.bulkIn other := by simp only [handle, reads]
        change (d.dispatch address other).1 = _
        rw [dispatch, handled]
      · have nothing := (if_neg reads).symm.trans read
        cases nothing
    | _ => cases read

theorem after_of_write (write : moment.write? = some urb) :
    moment.after = ((moment.before.bulkOut urb).1.apply (moment.before.bulkOut urb).2).1 := by
  obtain ⟨d, step⟩ := moment
  cases step with
  | hear | finishReset | resume => cases write
  | operate operation =>
    cases operation with
    | dispatch address other =>
      by_cases writes : Pipe.ofAddress? address = some .bulkOut
      · obtain rfl := Option.some.inj ((if_pos writes).symm.trans write)
        have handled : d.handle address other = d.bulkOut other := by simp only [handle, writes]
        change (d.dispatch address other).1 = _
        rw [dispatch, handled]
      · have nothing := (if_neg writes).symm.trans write
        cases nothing
    | _ => cases write

theorem works_of_read (read : moment.read? = some urb) :
    Works (moment.before.bulkIn urb).1 moment.after := by
  rw [after_of_read read]
  exact bulkIn_works moment.before urb

theorem works_of_write (write : moment.write? = some urb) :
    Works (moment.before.bulkOut urb).1 moment.after := by
  rw [after_of_write write]
  exact bulkOut_works moment.before urb

-- What a moment can be about.
inductive Kind (moment : Moment) : Prop where
  | reads (urb : Urb) (read : moment.read? = some urb) (write : moment.write? = none)
    (works : Works (moment.before.bulkIn urb).1 moment.after)
  | writes (urb : Urb) (read : moment.read? = none) (write : moment.write? = some urb)
    (works : Works (moment.before.bulkOut urb).1 moment.after)
  | hears (command : Command) (completion : Completion)
    (step : moment.step = .hear command completion)
    (executing : moment.before.slot = .executing command.generation)
    (read : moment.read? = none) (write : moment.write? = none)
    (settings : moment.after.settings = moment.before.settings)
    (slot : moment.after.slot =
      .held (completion.ended command).phaseAfter (completion.ended command))
    (submissions : moment.after.submissions = moment.before.submissions)
  | passes (read : moment.read? = none) (write : moment.write? = none)
    (aside : Aside moment.before moment.after)

theorem kind {earlier : List Moment}
    (follows : moment.step.Follows earlier moment.before) : moment.Kind := by
  obtain ⟨d, step⟩ := moment
  cases step with
  | hear command completion =>
    by_cases executing : d.slot = .executing command.generation
    · obtain ⟨events, heard⟩ := d.heard_eq command completion
      have after : d.step (.hear command completion) =
          { d.heard command completion with parked := .empty } := if_pos executing
      rw [heard] at after
      refine .hears command completion rfl executing rfl rfl ?_ ?_ ?_
      all_goals rw [Moment.after, after]
    · have after : d.step (.hear command completion) =
          reclaimed { d with events := d.events ++ completion.events command }
            command.generation := by
        rw [Device.step, if_neg executing, settle_stale completion executing]
      refine .passes rfl rfl ?_
      rw [Moment.after, after]
      exact .of_same rfl rfl rfl
  | resume urb => exact .reads urb rfl rfl (works_of_read rfl)
  | finishReset => exact .passes rfl rfl (finishReset_aside d .bulkOnly)
  | operate operation =>
    by_cases dispatches : ∃ address urb, operation = .dispatch address urb
    · obtain ⟨address, urb, rfl⟩ := dispatches
      by_cases reads : Pipe.ofAddress? address = some .bulkIn
      · have read : Moment.read? ⟨d, .operate (.dispatch address urb)⟩ = some urb := if_pos reads
        exact .reads urb read (if_neg (by simp [reads])) (works_of_read read)
      by_cases writes : Pipe.ofAddress? address = some .bulkOut
      · have write : Moment.write? ⟨d, .operate (.dispatch address urb)⟩ = some urb :=
          if_pos writes
        exact .writes urb (if_neg reads) write (works_of_write write)
      · exact .passes (if_neg reads) (if_neg writes) (dispatch_aside reads writes d urb)
    · have other (address : UInt8) (urb : Urb) : operation ≠ .dispatch address urb := by
        rintro rfl
        exact dispatches ⟨_, _, rfl⟩
      refine .passes ?_ ?_ (operate_aside other follows d)
      · cases operation with
        | dispatch address urb => exact absurd rfl (other address urb)
        | _ => rfl
      · cases operation with
        | dispatch address urb => exact absurd rfl (other address urb)
        | _ => rfl

end Moment

end BulkOnly
