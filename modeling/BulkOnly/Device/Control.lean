import BulkOnly.Control
import BulkOnly.Device.Reset

set_option autoImplicit false

namespace BulkOnly

def Urb.answered (urb : Urb) (setup : Setup) (answer : Bytes) : Urb :=
  let room := min (urb.data.length - Setup.encodedLength) setup.length.toNat
  { urb with
    data := Bytes.overwrite urb.data Setup.encodedLength (answer.take room)
    len := Setup.encodedLength + (answer.take room).length }

namespace Device

def refuse (d : Device) (setup : Setup) (urb : Urb) : Device × Disposition :=
  (d.complain (.unsupportedRequest setup), .stall urb [.control])

def serve (d : Device) (request : ControlRequest) (setup : Setup) (urb : Urb) :
    Device × Disposition :=
  match request with
  | .bulkOnlyReset => d.bulkOnlyReset urb
  | .maxLun | .interface => (d, .complete (urb.answered setup [0]))
  | .deviceStatus => (d, .complete (urb.answered setup [0, 0]))
  | .haltStatus pipe =>
    (d, .complete (urb.answered setup [if d.halts.get pipe then 1 else 0, 0]))
  | .haltFeature pipe address halt =>
    (log { d with halts := d.halts.set pipe halt } (.haltFeature address halt), .complete urb)
  | .remoteWakeup | .selectInterface => (d, .complete urb)
  | .descriptor kind index language =>
    match d.descriptors.lookup? kind index language with
    | some (.found data) => (d, .complete (urb.answered setup data))
    | some .fault => (d, .fault)
    | none => d.refuse setup urb
  | .configuration => (d, .complete (urb.answered setup [d.configuration]))
  | .configure value =>
    if value = d.configuration then (d, .reconfigure urb value)
    else (log { d with configuration := value } (.configured value), .complete urb)

-- A stall of the control pipe lasts only until the next setup packet.
def control (d : Device) (urb : Urb) : Device × Disposition :=
  let d := { d with halts := d.halts.set .control false }
  match Setup.parse? urb.payload with
  | none => (d.complain (.missingSetup urb.id), .stall urb [.control])
  | some setup =>
    let d := d.log (.controlRequest setup)
    match ControlRequest.ofSetup? setup with
    | none => d.refuse setup urb
    | some request => d.serve request setup urb

end Device

end BulkOnly
