import BulkOnly.Command
import BulkOnly.Descriptors
import BulkOnly.Journal.Event
import BulkOnly.Journal.Limiter
import BulkOnly.Settings
import BulkOnly.Slot
import BulkOnly.Urb.Queue

set_option autoImplicit false

namespace BulkOnly

-- `events` and `submissions` are what the operation in progress has brought about so far.
-- Between operations both are empty.
structure Device where
  settings : Settings := {}
  location : String := "lun0"
  slot : Slot := .vacant
  nextGeneration : Nat := 0
  parked : Urb.Queue := .empty
  done : Urb.Queue := .empty
  pendingReset : Option Urb := none
  halts : Halts := {}
  configuration : UInt8 := 0
  descriptors : Descriptors := []
  statistics : Statistics := {}
  limiter : Limiter := { limit := settings.logLimit }
  events : List Event := []
  submissions : List Command := []

namespace Device

def log (d : Device) (event : Event) : Device := { d with events := d.events ++ [event] }

def complain (d : Device) (about : Complaint) : Device :=
  let allowed := d.limiter.allow about.kind
  { d with limiter := allowed.1, events := d.events ++ [.complaint about allowed.2] }

def makesRoom (d : Device) (length : UInt32) : Bool :=
  d.settings.allocator.makesRoom d.slot.kept length.toNat

def finish (d : Device) (urb : Urb) (status : Urb.Status) : Device :=
  { d with done := d.done.append (urb.finished status) }

def stall (d : Device) (urb : Urb) (halting : List Pipe) : Device :=
  finish
    { d with
      halts := d.halts.raise halting
      statistics.stalls := d.statistics.stalls + 1 }
    urb .stall

-- Gives the transaction to the target as a command, unless it is answered here.
def startCommand (d : Device) (t : Transaction) (length : Nat) : Device :=
  if t.asksForSense then
    log { d with slot := .held t.answeredSense.phaseAfter t.answeredSense }
      (.senseAnswered t.wrapper.tag)
  else
    { d with
      slot := .executing d.nextGeneration
      nextGeneration := d.nextGeneration + 1
      statistics.commands := d.statistics.commands + 1
      submissions := d.submissions ++ [⟨d.nextGeneration, t.started length⟩] }

end Device

inductive Disposition where
  | complete (urb : Urb)
  | stall (urb : Urb) (halting : List Pipe)
  | park (urb : Urb)
  | hold (urb : Urb)
  | reconfigure (urb : Urb) (value : UInt8)
  | fault
  deriving DecidableEq, Repr

end BulkOnly
