import BulkOnly.Proofs.Conclusion
import BulkOnly.Proofs.Unseen
import BulkOnly.System

set_option autoImplicit false

namespace BulkOnly

def Device.Operation.reaps : Device.Operation → Bool
  | .reap | .poll | .reapAll | .stream _ => true
  | _ => false

namespace Device

theorem describe_congr {d e : Device} (location : e.location = d.location)
    (slot : e.slot = d.slot) : e.describe = d.describe := by
  unfold describe
  rw [location, slot]

structure Unheeded (change : Device → Device) : Prop extends Unseen change where
  halts (d : Device) : (change d).halts = d.halts
  configuration (d : Device) : (change d).configuration = d.configuration
  descriptors (d : Device) : (change d).descriptors = d.descriptors
  pendingReset (d : Device) : (change d).pendingReset = d.pendingReset
  halted (d : Device) (halts : Halts) : { change d with halts } = change { d with halts }
  configured (d : Device) (configuration : UInt8) :
    { change d with configuration } = change { d with configuration }

namespace Unheeded

variable {change : Device → Device} (unheeded : Unheeded change) (d : Device)
include unheeded

theorem bulkOnlyReset_executing (executing : d.slot.isExecuting = true) (urb : Urb) :
    (change d).bulkOnlyReset urb = (d.bulkOnlyReset urb).map change id := by
  have executing' : (d.log .bulkOnlyReset).slot.isExecuting = true := executing
  simp only [bulkOnlyReset, unheeded.log, unheeded.slot, unheeded.pendingReset, unheeded.complain,
    executing', if_true]
  split <;> rfl

theorem serve {request : ControlRequest} {urb : Urb} (setup : Setup)
    (resets : request = .bulkOnlyReset →
      (change d).bulkOnlyReset urb = (d.bulkOnlyReset urb).map change id) :
    (change d).serve request setup urb = (d.serve request setup urb).map change id := by
  cases request with
  | bulkOnlyReset => exact resets rfl
  | haltFeature pipe address halt =>
    simp only [Device.serve, unheeded.halts, unheeded.halted, unheeded.log]
    rfl
  | haltStatus pipe =>
    simp only [Device.serve, unheeded.halts]
    rfl
  | descriptor kind index language =>
    simp only [Device.serve, refuse, unheeded.descriptors, unheeded.complain]
    cases d.descriptors.lookup? kind index language with
    | none => rfl
    | some reply => cases reply <;> rfl
  | configuration =>
    simp only [Device.serve, unheeded.configuration]
    rfl
  | configure value =>
    simp only [Device.serve, unheeded.configuration, unheeded.configured, unheeded.log]
    split <;> rfl
  | maxLun | deviceStatus | remoteWakeup | interface | selectInterface => rfl

theorem control {urb : Urb}
    (resets : ∀ e : Device, e.slot = d.slot →
      (change e).bulkOnlyReset urb = (e.bulkOnlyReset urb).map change id) :
    (change d).control urb = (d.control urb).map change id := by
  simp only [Device.control, refuse, unheeded.halts, unheeded.halted, unheeded.log,
    unheeded.complain]
  cases Setup.parse? urb.payload with
  | none => rfl
  | some setup =>
    dsimp only
    cases ControlRequest.ofSetup? setup with
    | none => rfl
    | some request => exact unheeded.serve _ setup fun _ => resets _ rfl

theorem handle (address : UInt8) {urb : Urb}
    (resets : ∀ e : Device, e.slot = d.slot →
      (change e).bulkOnlyReset urb = (e.bulkOnlyReset urb).map change id) :
    (change d).handle address urb = (d.handle address urb).map change id := by
  simp only [Device.handle, unheeded.control d resets, unheeded.bulkOut, unheeded.bulkIn,
    unheeded.complain]
  cases Pipe.ofAddress? address with
  | none => rfl
  | some pipe => cases pipe <;> rfl

end Unheeded

structure Unnoticed (change : Device → Device) : Prop extends Unheeded change where
  location (d : Device) : (change d).location = d.location
  parked (d : Device) : (change d).parked = d.parked
  tell (d : Device) (events : List Event) :
    { change d with events := (change d).events ++ events } =
      change { d with events := d.events ++ events }
  queued (d : Device) (parked : Urb.Queue) : { change d with parked } = change { d with parked }
  deferred (d : Device) (pendingReset : Option Urb) :
    { change d with pendingReset } = change { d with pendingReset }
  described (d : Device) (descriptors : Descriptors) :
    { change d with descriptors } = change { d with descriptors }
  finish (d : Device) (urb : Urb) (status : Urb.Status) :
    (change d).finish urb status = change (d.finish urb status)
  stall (d : Device) (urb : Urb) (halting : List Pipe) :
    (change d).stall urb halting = change (d.stall urb halting)
  finishCancelled (d : Device) (urb : Urb) :
    (change d).finishCancelled urb = change (d.finishCancelled urb)
  finishReset (d : Device) (kind : Reset) :
    (change d).finishReset kind = change (d.finishReset kind)
  abandon (d : Device) : (change d).abandon = change d.abandon
  restoredTo (d : Device) (saved : SavedState) (slot : Slot) :
    (change d).restoredTo saved slot = change (d.restoredTo saved slot)
  reclaimed (d : Device) (generation : Nat) :
    (change d).reclaimed generation = change (d.reclaimed generation)

namespace Unnoticed

variable {change : Device → Device} (unnoticed : Unnoticed change) (d : Device)
include unnoticed

theorem resetAs (kind : Reset) : (change d).resetAs kind = change (d.resetAs kind) := by
  rw [Device.resetAs, unnoticed.abandon, unnoticed.finishReset]
  rfl

theorem bulkOnlyReset (urb : Urb) :
    (change d).bulkOnlyReset urb = (d.bulkOnlyReset urb).map change id := by
  simp only [Device.bulkOnlyReset, unnoticed.log, unnoticed.slot, unnoticed.pendingReset,
    unnoticed.complain, unnoticed.finishReset]
  split
  · split <;> rfl
  · rfl

theorem apply (disposition : Disposition) :
    (change d).apply disposition = (d.apply disposition).map change id := by
  cases disposition with
  | complete urb =>
    simp only [Device.apply, unnoticed.finish]
    rfl
  | stall urb halting =>
    simp only [Device.apply, unnoticed.stall]
    rfl
  | park urb =>
    simp only [Device.apply, unnoticed.parked, unnoticed.queued]
    rfl
  | hold urb =>
    simp only [Device.apply, unnoticed.deferred]
    rfl
  | reconfigure urb value =>
    simp only [Device.apply, unnoticed.resetAs, unnoticed.finish]
    rfl
  | fault => rfl

theorem dispatch (address : UInt8) (urb : Urb) :
    (change d).dispatch address urb = (d.dispatch address urb).map change id := by
  have handled : (change d).handle address urb = (d.handle address urb).map change id :=
    unnoticed.handle d address fun e _ => unnoticed.bulkOnlyReset e urb
  simp only [Device.dispatch, handled]
  exact unnoticed.apply _ _

theorem cancel (id : Nat) : (change d).cancel id = change (d.cancel id) := by
  cases found : d.parked.remove? id with
  | some taken =>
    have found' : (change d).parked.remove? id = some taken := by rw [unnoticed.parked, found]
    simp only [Device.cancel, found, found', unnoticed.queued, unnoticed.finishCancelled]
  | none =>
    have found' : (change d).parked.remove? id = none := by rw [unnoticed.parked, found]
    cases waits : d.pendingReset with
    | none =>
      have waits' : (change d).pendingReset = none := by rw [unnoticed.pendingReset, waits]
      simp only [Device.cancel, found, found', waits, waits', unnoticed.log]
    | some urb =>
      have waits' : (change d).pendingReset = some urb := by rw [unnoticed.pendingReset, waits]
      simp only [Device.cancel, found, found', waits, waits', unnoticed.log, unnoticed.deferred,
        unnoticed.finishCancelled]
      split <;> rfl

theorem restore (saved : SavedState) :
    (change d).restore saved = (d.restore saved).map change := by
  simp only [Device.restore, unnoticed.slot, unnoticed.restoredTo]
  cases saved.slot with
  | error flaw => rfl
  | ok slot =>
    dsimp only
    split <;> rfl

theorem operate {operation : Device.Operation} (leaves : operation.reaps = false) :
    (change d).operate operation = (d.operate operation).map change id := by
  cases operation with
  | dispatch address urb =>
    simp only [Device.operate, unnoticed.dispatch]
    rfl
  | cancel id =>
    simp only [Device.operate, unnoticed.cancel]
    rfl
  | reset =>
    simp only [Device.operate, reset, unnoticed.log, unnoticed.resetAs]
    rfl
  | setConfiguration value =>
    simp only [Device.operate, setConfiguration, unnoticed.configuration, unnoticed.resetAs,
      unnoticed.configured]
    split <;> rfl
  | clearHalt address =>
    simp only [Device.operate, clearHalt, unnoticed.halts, unnoticed.halted, unnoticed.log]
    cases Pipe.ofAddress? address <;> rfl
  | isHalted address =>
    simp only [Device.operate, unnoticed.halts]
    rfl
  | isIdle =>
    simp only [Device.operate, unnoticed.slot]
    rfl
  | setDescriptors table =>
    simp only [Device.operate, unnoticed.described]
    rfl
  | save =>
    simp only [Device.operate, save, unnoticed.slot, unnoticed.configuration, unnoticed.halts]
    split <;> rfl
  | restore saved =>
    simp only [Device.operate, unnoticed.restore]
    cases d.restore saved <;> rfl
  | describe =>
    simp only [Device.operate, describe_congr (unnoticed.location d) (unnoticed.slot d)]
    rfl
  | wakeUp => rfl
  | reap | poll | reapAll | stream _ => cases leaves

theorem resume (urb : Urb) : (change d).resume urb = change (d.resume urb) := by
  simp only [Device.resume, unnoticed.bulkIn]
  exact congrArg Prod.fst (unnoticed.apply _ _)

theorem foldl_resume (urbs : List Urb) :
    urbs.foldl Device.resume (change d) = change (urbs.foldl Device.resume d) := by
  induction urbs generalizing d with
  | nil => rfl
  | cons urb rest ih => rw [List.foldl_cons, unnoticed.resume, ih, List.foldl_cons]

theorem takenBack (t : Transaction) (outcome : Scsi.Outcome) :
    (change d).takenBack t outcome = change (d.takenBack t outcome) := by
  simp only [Device.takenBack, unnoticed.log]
  split <;> rw [unnoticed.held, unnoticed.log]

theorem concluded (t : Transaction) (outcome : Scsi.Outcome) :
    (change d).concluded t outcome = change (d.concluded t outcome) := by
  have resumed : ((change d).takenBack t outcome).resumeParked =
      change (d.takenBack t outcome).resumeParked := by
    rw [unnoticed.takenBack, resumeParked, unnoticed.parked, unnoticed.queued,
      unnoticed.foldl_resume]
    rfl
  simp only [concluded_eq, resumed, unnoticed.pendingReset, unnoticed.finishReset]
  split <;> rfl

theorem settle (command : Command) (completion : Completion) :
    (change d).settle command completion = change (d.settle command completion) := by
  by_cases executing : d.slot = .executing command.generation
  · have executing' : (change d).slot = .executing command.generation := by
      rw [unnoticed.slot, executing]
    rw [settle_executing completion executing, settle_executing completion executing',
      unnoticed.tell, unnoticed.concluded]
  · have executing' : (change d).slot ≠ .executing command.generation := by
      rw [unnoticed.slot]
      exact executing
    rw [settle_stale completion executing, settle_stale completion executing', unnoticed.tell,
      unnoticed.reclaimed]

end Unnoticed

end Device

end BulkOnly
