import BulkOnly.Device

set_option autoImplicit false

namespace BulkOnly.Device

def receiveCommand (d : Device) (t : Transaction) (urb : Urb) : Device × Disposition :=
  match CommandWrapper.parse urb.payload with
  | .error reason => (d.complain (.badWrapper reason), .stall urb [.bulkOut])
  | .ok wrapper =>
    if d.settings.maxTransferLength < wrapper.transferLength then
      (d.complain (.longTransfer wrapper.transferLength d.settings.maxTransferLength),
        .stall urb [.bulkOut])
    else if !d.makesRoom wrapper.transferLength then
      -- The old transaction stays as it was; it is ready for the next wrapper.
      (log { d with slot := .held .ready t } (.outOfMemory wrapper.transferLength),
        .stall urb [.bulkIn, .bulkOut])
    else
      let d := d.log (.commandAccepted wrapper)
      if wrapper.direction = .toDevice ∧ wrapper.transferLength ≠ 0 then
        ({ d with slot := .held .dataFromHost (t.opened wrapper) }, .complete urb)
      else
        (d.startCommand (t.opened wrapper) wrapper.transferLength.toNat, .complete urb)

def receiveData (d : Device) (t : Transaction) (urb : Urb) : Device × Disposition :=
  match t.received? urb.payload with
  | none => (d.complain (.overrun urb.len t.offset t.declared), .stall urb [.bulkOut])
  | some next =>
    if next.isComplete then (d.startCommand next next.declared, .complete urb)
    else ({ d with slot := .held .dataFromHost next }, .complete urb)

def bulkOut (d : Device) (urb : Urb) : Device × Disposition :=
  if urb.direction ≠ .toDevice then
    (d.complain (.wrongDirection .bulkOut urb.id), .stall urb [.bulkOut])
  else if d.halts.bulkOut then
    (d.complain (.halted .bulkOut urb.id), .stall urb [])
  else match d.slot with
    | .vacant => d.receiveCommand {} urb
    | .held .ready t => d.receiveCommand t urb
    | .held .dataFromHost t => d.receiveData t urb
    | slot => (d.complain (.unexpected .bulkOut urb.id slot.stage), .stall urb [.bulkOut])

end BulkOnly.Device
