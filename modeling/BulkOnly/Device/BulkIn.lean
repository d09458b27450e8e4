import BulkOnly.Device

set_option autoImplicit false

namespace BulkOnly.Device

def sendData (d : Device) (t : Transaction) (urb : Urb) : Device × Disposition :=
  if t.remaining < urb.requested ∧ urb.shortNotOk then
    -- The stall ends the data phase; the host clears it and reads the status.
    (complain { d with slot := .held .status t } (.underrun urb.requested t.remaining),
      .stall urb [.bulkIn])
  else
    let bytes := t.chunk urb.requested
    let next := t.advanced bytes.length
    let phase : Phase :=
      if bytes.length < urb.requested ∨ next.declared ≤ next.offset then .status else .dataToHost
    ({ d with slot := .held phase next }, .complete (urb.filled bytes))

def sendStatus (d : Device) (t : Transaction) (urb : Urb) : Device × Disposition :=
  if urb.requested < StatusWrapper.encodedLength ∨
      (StatusWrapper.encodedLength < urb.requested ∧ urb.shortNotOk) then
    (d.complain (.badStatusRead urb.requested), .stall urb [.bulkIn])
  else
    (log { d with slot := .held .ready t.rewound } (.statusSent t.statusWrapper),
      .complete (urb.filled t.statusWrapper.encode))

def sendEarlyStatus (d : Device) (t : Transaction) (urb : Urb) : Device × Disposition :=
  -- Some hosts cut a write short this way; only a read for exactly a status wrapper counts.
  if urb.requested ≠ StatusWrapper.encodedLength then
    (d.complain (.duringDataOut urb.id urb.requested), .stall urb [.bulkIn])
  else
    let d := d.log (.dataCutShort t.offset t.declared)
    if t.offset = 0 then
      d.sendStatus ((t.started 0).finished (Scsi.Outcome.good 0)) urb
    else
      (d.startCommand t t.offset, .park urb)

def bulkIn (d : Device) (urb : Urb) : Device × Disposition :=
  if urb.direction ≠ .toHost then
    (d.complain (.wrongDirection .bulkIn urb.id), .stall urb [.bulkIn])
  else if d.halts.bulkIn then
    (d.complain (.halted .bulkIn urb.id), .stall urb [])
  else match d.slot with
    | .executing _ => (d, .park urb)
    | .held .dataToHost t => d.sendData t urb
    | .held .status t => d.sendStatus t urb
    | .held .dataFromHost t => d.sendEarlyStatus t urb
    | slot => (d.complain (.unexpected .bulkIn urb.id slot.stage), .stall urb [.bulkIn])

end BulkOnly.Device
