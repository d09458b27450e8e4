import BulkOnly.Journal.Complaint

set_option autoImplicit false

namespace BulkOnly

inductive Severity where
  | error
  | warn
  | debug
  | trace
  deriving DecidableEq, Repr

namespace Severity

def rank : Severity → Nat
  | error => 0
  | warn => 1
  | debug => 2
  | trace => 3

def name : Severity → String
  | error => "ERROR"
  | warn => "WARN"
  | debug => "DEBUG"
  | trace => "TRACE"

end Severity

inductive Reset where
  | device
  | configuration (value : UInt8)
  | bulkOnly
  deriving DecidableEq, Repr

def Reset.name : Reset → String
  | .device => "Device"
  | .configuration value => s!"SetConfiguration({value.toNat})"
  | .bulkOnly => "BulkOnly"

inductive Event where
  | complaint (about : Complaint) (loud : Bool)
  | commandAccepted (wrapper : CommandWrapper)
  | outOfMemory (length : UInt32)
  | senseAnswered (tag : UInt32)
  | statusSent (wrapper : StatusWrapper)
  | dataCutShort (received declared : Nat)
  | submitting (generation : Nat) (command : Bytes) (direction : Direction) (length : Nat)
  | commandDropped (opcode : UInt8)
  | retrySuggested
  | commandEnded (tag : UInt32) (transferred : Nat) (status : Scsi.Status)
  | abandoned (generation timeout : Nat)
  | reclaimed (generation : Nat)
  | endedWithoutDevice
  | endedWithBrokenDevice
  | deviceReset
  | bulkOnlyReset
  | resetDeferred
  | aborting (count : Nat)
  | resetDone (kind : Reset)
  | controlRequest (setup : Setup)
  | haltFeature (address : UInt8) (halt : Bool)
  | haltCleared (address : UInt8)
  | configured (value : UInt8)
  | cancelling (id : Nat)
  | nothingToCancel (id : Nat)
  | restored (stage : Stage)
  deriving DecidableEq, Repr

inductive Field where
  | number (value : Nat)
  | text (value : String)
  deriving DecidableEq, Repr

structure Entry where
  severity : Severity
  message : String
  fields : List (String × Field)
  deriving DecidableEq, Repr

namespace Event

def severity : Event → Severity
  | complaint _ loud => if loud then .warn else .trace
  | outOfMemory .. | commandDropped .. | abandoned .. => .warn
  | endedWithBrokenDevice => .error
  | submitting .. | retrySuggested | endedWithoutDevice | controlRequest ..
  | nothingToCancel .. => .trace
  | _ => .debug

def message : Event → String
  | complaint about _ => about.message
  | commandAccepted wrapper => s!"CBW with opcode {Text.hex 2 wrapper.opcode.toNat}"
  | outOfMemory length =>
      s!"cannot allocate {length.toNat} byte buffer: memory allocation failed because "
        ++ "the memory allocator returned an error"
  | senseAnswered _ => "answered REQUEST SENSE from retained sense data"
  | statusSent wrapper => s!"CSW with status {wrapper.status.name}"
  | dataCutShort received declared =>
      s!"status read after {received} of {declared} data-out bytes, truncating command"
  | submitting generation command direction length =>
      s!"submitting ScsiCommand \x7b generation: {generation}, cdb: {Text.byteList command}, "
        ++ s!"direction: {direction.name}, transfer_len: {length} \x7d"
  | commandDropped opcode =>
      s!"SCSI command {Text.hex 2 opcode.toNat} dropped without completion"
  | retrySuggested => "backend suggests retry, ignored"
  | commandEnded _ _ status =>
      s!"SCSI command completed with status {Text.hex 2 (UInt8.toNat status)}"
  | abandoned _ timeout =>
      s!"SCSI command did not complete within {Text.milliseconds timeout}, abandoning request"
  | reclaimed _ => "releasing request abandoned by reset"
  | endedWithoutDevice => "SCSI command completed after device was dropped"
  | endedWithBrokenDevice => "cannot complete SCSI command: internal device error"
  | deviceReset => "device reset"
  | bulkOnlyReset => "Bulk-Only Mass Storage Reset"
  | resetDeferred => "deferring Bulk-Only reset until SCSI command completes"
  | aborting count => s!"aborting {count} parked transfers"
  | resetDone kind => s!"{kind.name} reset done"
  | controlRequest setup => s!"control request {setup.describe}"
  | haltFeature address halt => s!"endpoint {Text.hex 2 address.toNat} halted: {halt}"
  | haltCleared address => s!"clearing halt on endpoint {Text.hex 2 address.toNat}"
  | configured value => s!"configuration {value.toNat}"
  | cancelling id => s!"cancelling urb#{id}"
  | nothingToCancel id => s!"urb#{id} not queued, nothing to cancel"
  | restored stage => s!"restored state {stage.name}"

-- What happens outside the device does not know where the device is.
def isLocated : Event → Bool
  | submitting .. | commandDropped .. | endedWithoutDevice | endedWithBrokenDevice
  | deviceReset => false
  | _ => true

def fields : Event → List (String × Field)
  | commandAccepted wrapper =>
      [("tag", .number wrapper.tag.toNat), ("length", .number wrapper.transferLength.toNat),
        ("direction", .text wrapper.direction.name)]
  | senseAnswered tag => [("tag", .number tag.toNat)]
  | statusSent wrapper =>
      [("tag", .number wrapper.tag.toNat), ("residue", .number wrapper.residue.toNat)]
  | commandEnded tag transferred _ =>
      [("tag", .number tag.toNat), ("transferred", .number transferred)]
  | abandoned generation _ | reclaimed generation => [("generation", .number generation)]
  | _ => []

def entry (event : Event) (location : String) : Entry :=
  { severity := event.severity
    message := event.message
    fields :=
      if event.isLocated then ("location", .text location) :: event.fields else event.fields }

end Event

end BulkOnly
