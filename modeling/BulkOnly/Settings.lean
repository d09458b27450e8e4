set_option autoImplicit false

namespace BulkOnly

-- Whether there is memory for a buffer of some length. It may depend on the buffer that is kept.
structure Allocator where
  grants (kept length : Nat) : Bool

namespace Allocator

def upTo (limit : Nat) : Allocator := ⟨fun _ length => length ≤ limit⟩

-- A buffer that is long enough already is used again, and the allocator is not asked.
def makesRoom (a : Allocator) (kept length : Nat) : Bool := length ≤ kept || a.grants kept length

end Allocator

-- `resetTimeout` is in milliseconds.
structure Settings where
  maxTransferLength : UInt32 := 4194304
  resetTimeout : Nat := 20
  logLimit : UInt32 := 10
  allocator : Allocator := .upTo 67108864

structure Statistics where
  commands : Nat := 0
  stalls : Nat := 0
  cancelled : Nat := 0
  resets : Nat := 0
  abandoned : Nat := 0
  reclaimed : Nat := 0
  deriving DecidableEq, Repr

end BulkOnly
