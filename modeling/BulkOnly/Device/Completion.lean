import BulkOnly.Device.Dispatch

set_option autoImplicit false

namespace BulkOnly.Device

def resume (d : Device) (urb : Urb) : Device :=
  let handled := d.bulkIn urb
  (handled.1.apply handled.2).1

def resumeParked (d : Device) : Device :=
  d.parked.toList.foldl resume { d with parked := .empty }

def concluded (d : Device) (t : Transaction) (outcome : Scsi.Outcome) : Device :=
  let d := if outcome.retry then d.log .retrySuggested else d
  let t := t.finished outcome
  let d := resumeParked <| log { d with slot := .held t.phaseAfter t }
    (.commandEnded t.wrapper.tag t.transferred t.status)
  if d.pendingReset.isSome then d.finishReset .bulkOnly else d

-- The end of a command that a reset has given up: its transaction goes with it.
def reclaimed (d : Device) (generation : Nat) : Device :=
  log { d with statistics.reclaimed := d.statistics.reclaimed + 1 } (.reclaimed generation)

def complete (d : Device) (command : Command) (outcome : Scsi.Outcome) : Device :=
  if d.slot = .executing command.generation then d.concluded command.transaction outcome
  else d.reclaimed command.generation

end BulkOnly.Device
