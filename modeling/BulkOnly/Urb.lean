import BulkOnly.Pipe
import BulkOnly.Setup
import BulkOnly.Text.Number

set_option autoImplicit false

namespace BulkOnly

inductive Urb.Status where
  | pending
  | ok
  | stall
  | transportError
  | cancelled
  deriving DecidableEq, Repr

def Urb.Status.name : Urb.Status → String
  | .pending => "Pending"
  | .ok => "Ok"
  | .stall => "Stall"
  | .transportError => "TransportError"
  | .cancelled => "Cancelled"

-- `len` is the length asked for until the transfer is done, then the length that was moved.
-- It is independent of the size of the buffer.
structure Urb where
  id : Nat
  endpoint : UInt8
  direction : Direction
  data : Bytes
  len : Nat
  shortNotOk : Bool := false
  status : Urb.Status := .pending
  deriving DecidableEq, Repr

namespace Urb

def bulkOut (id : Nat) (data : Bytes) : Urb :=
  { id, endpoint := Pipe.bulkOut.address, direction := .toDevice, data, len := data.length }

def bulkIn (id len : Nat) : Urb :=
  { id, endpoint := Pipe.bulkIn.address, direction := .toHost
    data := List.replicate len 0, len }

-- The buffer of a control transfer: the setup packet, then the payload or room for the answer.
def controlData (setup : Setup) (payload : Bytes) : Bytes :=
  setup.encode ++
    match setup.direction with
    | .toDevice => payload
    | .toHost => List.replicate setup.length.toNat 0

def control (id : Nat) (setup : Setup) (payload : Bytes) : Urb :=
  { id, endpoint := Pipe.control.address, direction := setup.direction
    data := controlData setup payload, len := (controlData setup payload).length }

def payload (urb : Urb) : Bytes := urb.data.take urb.len

def requested (urb : Urb) : Nat := min urb.len urb.data.length

theorem length_payload (urb : Urb) : urb.payload.length = urb.requested := by
  simp [payload, requested]

def response (urb : Urb) : Bytes := urb.payload.drop Setup.encodedLength

def finished (urb : Urb) (status : Status) : Urb := { urb with status }

def filled (urb : Urb) (bytes : Bytes) : Urb :=
  { urb with data := Bytes.overwrite urb.data 0 bytes, len := bytes.length }

theorem payload_filled (urb : Urb) (bytes : Bytes) : (urb.filled bytes).payload = bytes := by
  simp [filled, payload, Bytes.overwrite]

def name (urb : Urb) : String := s!"urb#{urb.id}"

def describe (urb : Urb) : String :=
  s!"Urb \x7b id: UrbId({urb.id}), endpoint: {Text.hex 2 urb.endpoint.toNat}, "
    ++ s!"direction: {urb.direction.name}, len: {urb.len}, short_not_ok: {urb.shortNotOk}, "
    ++ s!"status: {urb.status.name} \x7d"

end Urb

end BulkOnly
