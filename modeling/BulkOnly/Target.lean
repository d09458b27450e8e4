import BulkOnly.Device.Completion

set_option autoImplicit false

namespace BulkOnly

-- A target that does not count the bytes has moved all that it was asked to.
inductive Ending where
  | dropped
  | ended (status : Scsi.Status) (transferred : Option Nat) (retry : Bool)
  deriving DecidableEq, Repr

structure Completion where
  data : Bytes := []
  sense : Bytes := []
  ending : Ending := .ended Scsi.Status.good none false
  deriving DecidableEq, Repr

namespace Completion

def written (completion : Completion) (command : Command) : Command :=
  (command.withData completion.data).withSense completion.sense

-- The command as it comes back. One that was dropped counts as aborted.
def returned (completion : Completion) (command : Command) : Command :=
  match completion.ending with
  | .dropped => { completion.written command with
      transaction.sense := Scsi.Sense.abortedCommand }
  | .ended .. => completion.written command

def outcome (completion : Completion) (command : Command) : Scsi.Outcome :=
  match completion.ending with
  | .dropped => Scsi.Outcome.checkCondition 0
  | .ended status transferred retry =>
    { status, transferred := transferred.getD command.length, retry }

def events (completion : Completion) (command : Command) : List Event :=
  match completion.ending with
  | .dropped => [.commandDropped command.opcode]
  | .ended .. => []

end Completion

namespace Device

def settle (d : Device) (command : Command) (completion : Completion) : Device :=
  complete { d with events := d.events ++ completion.events command }
    (completion.returned command) (completion.outcome command)

end Device

inductive Target where
  | holds
  | drops
  | answers (next : Completion) (later : List Completion)
  deriving DecidableEq, Repr

namespace Target

-- The last answer serves all commands that follow.
def take : Target → Target × Option Completion
  | holds => (holds, none)
  | drops => (drops, some { ending := .dropped })
  | answers next [] => (answers next [], some next)
  | answers next (following :: later) => (answers following later, some next)

end Target

end BulkOnly
