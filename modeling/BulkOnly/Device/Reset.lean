import BulkOnly.Device

set_option autoImplicit false

namespace BulkOnly

def Reset.configurationAfter (kind : Reset) (current : UInt8) : UInt8 :=
  match kind with
  | .device => 0
  | .configuration value => value
  | .bulkOnly => current

namespace Device

def abortParked (d : Device) : Device :=
  let waiting := d.parked.toList
  let d := if waiting.isEmpty then d else d.log (.aborting waiting.length)
  waiting.foldl (fun d urb => d.finish urb .transportError) { d with parked := .empty }

def finishPendingReset (d : Device) : Device :=
  match d.pendingReset with
  | none => d
  | some urb => finish { d with pendingReset := none } urb .ok

-- Brings the device back to rest. The slot must not be executing.
def finishReset (d : Device) (kind : Reset) : Device :=
  let d := finishPendingReset <| abortParked
    { d with
      halts := {}
      configuration := kind.configurationAfter d.configuration
      slot := d.slot.rewound }
  log { d with statistics.resets := d.statistics.resets + 1 } (.resetDone kind)

def abandon (d : Device) : Device :=
  match d.slot with
  | .executing generation =>
    log
      { d with
        slot := .vacant
        statistics.abandoned := d.statistics.abandoned + 1 }
      (.abandoned generation d.settings.resetTimeout)
  | _ => d

def resetAs (d : Device) (kind : Reset) : Device := d.abandon.finishReset kind

def reset (d : Device) : Device := (d.log .deviceReset).resetAs .device

-- To select the active configuration once more is a reset.
def setConfiguration (d : Device) (value : UInt8) : Device :=
  if d.configuration = value then d.resetAs (.configuration value)
  else { d with configuration := value }

def bulkOnlyReset (d : Device) (urb : Urb) : Device × Disposition :=
  let d := d.log .bulkOnlyReset
  if d.slot.isExecuting then
    if d.pendingReset.isSome then (d.complain (.resetRace urb.id), .stall urb [.control])
    else (d.log .resetDeferred, .hold urb)
  else (d.finishReset .bulkOnly, .complete urb)

end Device

end BulkOnly
