import BulkOnly.Stage

set_option autoImplicit false

namespace BulkOnly

-- A command owns its transaction until it ends. The generation tells it from every other.
structure Command where
  generation : Nat
  transaction : Transaction
  deriving DecidableEq, Repr

namespace Command

def block (command : Command) : Bytes := command.transaction.wrapper.command

def opcode (command : Command) : UInt8 := command.transaction.wrapper.opcode

def direction (command : Command) : Direction := command.transaction.direction

def length (command : Command) : Nat := command.transaction.length

def data (command : Command) : Bytes := command.transaction.buffer.take command.length

-- Puts data into the front of the command's room; what does not fit is dropped.
def withData (command : Command) (data : Bytes) : Command :=
  { command with
    transaction.buffer :=
      Bytes.overwrite command.transaction.buffer 0 (data.take command.data.length) }

def withSense (command : Command) (front : Bytes) : Command :=
  { command with transaction.sense := command.transaction.sense.overwrite front }

theorem length_buffer_withData (command : Command) (data : Bytes) :
    (command.withData data).transaction.buffer.length =
      command.transaction.buffer.length := by
  apply Bytes.length_overwrite
  simp only [Command.data, List.length_take]
  omega

end Command

end BulkOnly
