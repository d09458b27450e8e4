import BulkOnly.Device.Completion

set_option autoImplicit false

namespace BulkOnly.Device

structure Unseen (change : Device → Device) : Prop where
  settings (d : Device) : (change d).settings = d.settings
  slot (d : Device) : (change d).slot = d.slot
  haltedIn (d : Device) : (change d).halts.bulkIn = d.halts.bulkIn
  haltedOut (d : Device) : (change d).halts.bulkOut = d.halts.bulkOut
  held (d : Device) (phase : Phase) (t : Transaction) :
    { change d with slot := .held phase t } = change { d with slot := .held phase t }
  log (d : Device) (event : Event) : (change d).log event = change (d.log event)
  complain (d : Device) (about : Complaint) : (change d).complain about = change (d.complain about)
  startCommand (d : Device) (t : Transaction) (length : Nat) :
    (change d).startCommand t length = change (d.startCommand t length)

namespace Unseen

variable {change : Device → Device} (unseen : Unseen change) (d : Device)
include unseen

theorem sendData (t : Transaction) (urb : Urb) :
    (change d).sendData t urb = (d.sendData t urb).map change id := by
  simp only [Device.sendData, unseen.held, unseen.complain]
  split <;> rfl

theorem sendStatus (t : Transaction) (urb : Urb) :
    (change d).sendStatus t urb = (d.sendStatus t urb).map change id := by
  simp only [Device.sendStatus, unseen.held, unseen.complain, unseen.log]
  split <;> rfl

theorem sendEarlyStatus (t : Transaction) (urb : Urb) :
    (change d).sendEarlyStatus t urb = (d.sendEarlyStatus t urb).map change id := by
  simp only [Device.sendEarlyStatus, unseen.log, unseen.complain, unseen.startCommand,
    unseen.sendStatus]
  split
  · rfl
  · split <;> rfl

theorem bulkIn (urb : Urb) : (change d).bulkIn urb = (d.bulkIn urb).map change id := by
  simp only [Device.bulkIn, unseen.haltedIn, unseen.slot, unseen.complain, unseen.sendData,
    unseen.sendStatus, unseen.sendEarlyStatus]
  split
  · rfl
  split
  · rfl
  cases d.slot with
  | held phase t => cases phase <;> rfl
  | vacant | executing _ => rfl

theorem makesRoom (length : UInt32) : (change d).makesRoom length = d.makesRoom length := by
  simp only [Device.makesRoom, unseen.settings, unseen.slot]

theorem receiveCommand (t : Transaction) (urb : Urb) :
    (change d).receiveCommand t urb = (d.receiveCommand t urb).map change id := by
  simp only [Device.receiveCommand, unseen.held, unseen.log, unseen.complain, unseen.startCommand,
    unseen.makesRoom]
  rw [unseen.settings]
  cases CommandWrapper.parse urb.payload with
  | error reason => rfl
  | ok wrapper =>
    dsimp only
    split
    · rfl
    split
    · rfl
    · split <;> rfl

theorem receiveData (t : Transaction) (urb : Urb) :
    (change d).receiveData t urb = (d.receiveData t urb).map change id := by
  simp only [Device.receiveData, unseen.held, unseen.complain, unseen.startCommand]
  cases t.received? urb.payload with
  | none => rfl
  | some next =>
    dsimp only
    split <;> rfl

theorem bulkOut (urb : Urb) : (change d).bulkOut urb = (d.bulkOut urb).map change id := by
  simp only [Device.bulkOut, unseen.haltedOut, unseen.slot, unseen.complain,
    unseen.receiveCommand, unseen.receiveData]
  split
  · rfl
  split
  · rfl
  cases d.slot with
  | held phase t => cases phase <;> rfl
  | vacant | executing _ => rfl

end Unseen

end BulkOnly.Device
