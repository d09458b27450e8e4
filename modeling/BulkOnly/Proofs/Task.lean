import BulkOnly.System

set_option autoImplicit false

namespace BulkOnly

-- The transfer comes back from the operation that has brought it, unless the device fails.
def Disposition.Answers (urb : Urb) : Disposition → Prop
  | .complete moved => moved.id = urb.id
  | .stall same _ | .reconfigure same _ => same = urb
  | .fault => True
  | .park _ | .hold _ => False

def Device.Operation.looksOn : Device.Operation → Bool
  | .dispatch .. | .cancel _ | .reset | .setConfiguration _ | .restore _ => false
  | _ => true

namespace Device

structure SameTask (d e : Device) : Prop where
  slot : e.slot = d.slot
  next : e.nextGeneration = d.nextGeneration
  parked : e.parked = d.parked
  pendingReset : e.pendingReset = d.pendingReset
  submissions : e.submissions = d.submissions
  commands : e.statistics.commands = d.statistics.commands
  abandoned : e.statistics.abandoned = d.statistics.abandoned
  reclaimed : e.statistics.reclaimed = d.statistics.reclaimed
  resets : e.statistics.resets = d.statistics.resets

namespace SameTask

theorem refl (d : Device) : SameTask d d := ⟨rfl, rfl, rfl, rfl, rfl, rfl, rfl, rfl, rfl⟩

theorem trans {d e f : Device} (first : SameTask d e) (second : SameTask e f) : SameTask d f where
  slot := second.slot.trans first.slot
  next := second.next.trans first.next
  parked := second.parked.trans first.parked
  pendingReset := second.pendingReset.trans first.pendingReset
  submissions := second.submissions.trans first.submissions
  commands := second.commands.trans first.commands
  abandoned := second.abandoned.trans first.abandoned
  reclaimed := second.reclaimed.trans first.reclaimed
  resets := second.resets.trans first.resets

end SameTask

theorem log_task (d : Device) (event : Event) : SameTask d (d.log event) :=
  ⟨rfl, rfl, rfl, rfl, rfl, rfl, rfl, rfl, rfl⟩

theorem complain_task (d : Device) (about : Complaint) : SameTask d (d.complain about) :=
  ⟨rfl, rfl, rfl, rfl, rfl, rfl, rfl, rfl, rfl⟩

theorem halts_task (d : Device) (halts : Halts) : SameTask d { d with halts } :=
  ⟨rfl, rfl, rfl, rfl, rfl, rfl, rfl, rfl, rfl⟩

structure Replied (d : Device) (urb : Urb) (handled : Device × Disposition) : Prop where
  task : SameTask d handled.1
  done : handled.1.done = d.done
  answers : handled.2.Answers urb

theorem serve_replied (d : Device) {request : ControlRequest} (other : request ≠ .bulkOnlyReset)
    (setup : Setup) (urb : Urb) : Replied d urb (d.serve request setup urb) := by
  cases request with
  | bulkOnlyReset => exact absurd rfl other
  | haltFeature pipe address halt => exact ⟨(halts_task d _).trans (log_task _ _), rfl, rfl⟩
  | descriptor kind index language =>
    simp only [serve]
    split
    · exact ⟨.refl d, rfl, rfl⟩
    · exact ⟨.refl d, rfl, trivial⟩
    · exact ⟨complain_task d _, rfl, rfl⟩
  | configure value =>
    simp only [serve]
    split
    · exact ⟨.refl d, rfl, rfl⟩
    · exact ⟨⟨rfl, rfl, rfl, rfl, rfl, rfl, rfl, rfl, rfl⟩, rfl, rfl⟩
  | maxLun | deviceStatus | haltStatus _ | remoteWakeup | configuration | interface
  | selectInterface => exact ⟨.refl d, rfl, rfl⟩

theorem control_replied (d : Device) {urb : Urb}
    (other : (Setup.parse? urb.payload).bind ControlRequest.ofSetup? ≠ some .bulkOnlyReset) :
    Replied d urb (d.control urb) := by
  have cleared := halts_task d (d.halts.set .control false)
  simp only [control]
  split
  · exact ⟨cleared.trans (complain_task _ _), rfl, rfl⟩
  next setup parsed =>
    have logged := cleared.trans (log_task _ (.controlRequest setup))
    rw [parsed, Option.bind_some] at other
    split
    · exact ⟨logged.trans (complain_task _ _), rfl, rfl⟩
    next request known =>
      have reset : request ≠ .bulkOnlyReset := fun same => other (known.trans (congrArg some same))
      obtain ⟨task, done, answers⟩ := serve_replied
        (log { d with halts := d.halts.set .control false } (.controlRequest setup)) reset setup urb
      exact ⟨logged.trans task, done, answers⟩

theorem control_cases (d : Device) (urb : Urb) :
    Replied d urb (d.control urb) ∨
      ∃ e, SameTask d e ∧ e.done = d.done ∧ d.control urb = e.bulkOnlyReset urb := by
  by_cases reset : (Setup.parse? urb.payload).bind ControlRequest.ofSetup? = some .bulkOnlyReset
  · obtain ⟨setup, parsed, known⟩ := Option.bind_eq_some_iff.mp reset
    refine .inr ⟨log { d with halts := d.halts.set .control false } (.controlRequest setup),
      (halts_task d _).trans (log_task _ _), rfl, ?_⟩
    simp only [control, parsed, known, serve]
  · exact .inl (control_replied d reset)

theorem operate_task (d : Device) {operation : Device.Operation}
    (looks : operation.looksOn = true) : SameTask d (d.operate operation).1 := by
  have taken {urb : Urb} {e : Device} (reaped : d.reap? = some (urb, e)) : SameTask d e := by
    obtain ⟨rest, -, rfl⟩ := reap?_eq_some_iff.mp reaped
    exact ⟨rfl, rfl, rfl, rfl, rfl, rfl, rfl, rfl, rfl⟩
  cases operation with
  | dispatch _ _ | cancel _ | reset | setConfiguration _ | restore _ => cases looks
  | clearHalt address =>
    simp only [operate, clearHalt]
    split
    · exact (halts_task d _).trans (log_task _ _)
    · exact .refl d
  | reap | poll =>
    simp only [operate]
    split
    next reaped => exact taken reaped
    next => exact .refl d
  | save =>
    simp only [operate]
    split <;> exact .refl d
  | wakeUp | isHalted _ | isIdle | reapAll | stream _ | setDescriptors _ | describe =>
    exact ⟨rfl, rfl, rfl, rfl, rfl, rfl, rfl, rfl, rfl⟩

end Device

end BulkOnly
