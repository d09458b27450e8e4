import BulkOnly.Setup
import BulkOnly.Stage
import BulkOnly.Urb
import BulkOnly.Wrapper.Command

set_option autoImplicit false

namespace BulkOnly

inductive Complaint.Kind where
  | badWrapper
  | wrongState
  | overrun
  | underrun
  | badStatusRead
  | unsupportedRequest
  | halted
  | resetRace
  deriving DecidableEq, Repr

inductive Complaint where
  | wrongDirection (pipe : Pipe) (id : Nat)
  | unexpected (pipe : Pipe) (id : Nat) (stage : Stage)
  | duringDataOut (id requested : Nat)
  | unknownEndpoint (id : Nat) (address : UInt8)
  | halted (pipe : Pipe) (id : Nat)
  | badWrapper (reason : CommandWrapper.Rejection)
  | longTransfer (length limit : UInt32)
  | overrun (len offset declared : Nat)
  | underrun (requested available : Nat)
  | badStatusRead (requested : Nat)
  | missingSetup (id : Nat)
  | unsupportedRequest (setup : Setup)
  | resetRace (id : Nat)
  deriving DecidableEq, Repr

namespace Complaint

def kind : Complaint → Kind
  | wrongDirection .. | unexpected .. | duringDataOut .. | unknownEndpoint .. => .wrongState
  | halted .. => .halted
  | badWrapper .. | longTransfer .. => .badWrapper
  | overrun .. => .overrun
  | underrun .. => .underrun
  | badStatusRead .. => .badStatusRead
  | missingSetup .. | unsupportedRequest .. => .unsupportedRequest
  | resetRace .. => .resetRace

-- A transfer with the wrong direction is named by the one it has, not by that of the pipe.
def opposite : Pipe → String
  | .bulkIn => "host-to-device"
  | .bulkOut | .control => "device-to-host"

def message : Complaint → String
  | wrongDirection pipe id => s!"{opposite pipe} transfer urb#{id} on {pipe.name} pipe"
  | unexpected pipe id stage => s!"{pipe.name} transfer urb#{id} in state {stage.name}"
  | duringDataOut id requested =>
      s!"bulk-in transfer urb#{id} of {requested} bytes during data-out phase"
  | unknownEndpoint id address =>
      s!"transfer urb#{id} on unknown endpoint {Text.hex 2 address.toNat}"
  | halted pipe id => s!"transfer urb#{id} on halted {pipe.name} pipe"
  | badWrapper reason => s!"rejecting CBW: {reason.message}"
  | longTransfer length limit =>
      s!"rejecting CBW with transfer length {length.toNat} above {limit.toNat}"
  | overrun len offset declared =>
      s!"{len} bytes overrun data phase at {offset} of {declared} bytes"
  | underrun requested available => s!"host wants {requested} bytes, only {available} available"
  | badStatusRead requested => s!"status read of {requested} bytes"
  | missingSetup id => s!"control transfer urb#{id} without setup packet"
  | unsupportedRequest setup => s!"unsupported control request {setup.describe}"
  | resetRace id => s!"Bulk-Only reset urb#{id} while another is pending"

end Complaint

end BulkOnly
