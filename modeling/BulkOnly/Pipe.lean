set_option autoImplicit false

namespace BulkOnly

inductive Direction where
  | toHost
  | toDevice
  deriving DecidableEq, Repr

def Direction.name : Direction → String
  | .toHost => "In"
  | .toDevice => "Out"

def Direction.ofBits (bits : UInt8) : Direction :=
  if bits &&& 0x80 = 0 then .toDevice else .toHost

inductive Pipe where
  | control
  | bulkIn
  | bulkOut
  deriving DecidableEq, Repr

namespace Pipe

def address : Pipe → UInt8
  | .control => 0x00
  | .bulkIn => 0x81
  | .bulkOut => 0x02

-- The control pipe answers to both directions of endpoint zero.
def ofAddress? (address : UInt8) : Option Pipe :=
  if address = 0x00 ∨ address = 0x80 then some .control
  else if address = 0x81 then some .bulkIn
  else if address = 0x02 then some .bulkOut
  else none

@[simp] theorem ofAddress?_address (pipe : Pipe) : ofAddress? pipe.address = some pipe := by
  cases pipe <;> rfl

def name : Pipe → String
  | .control => "control"
  | .bulkIn => "bulk-in"
  | .bulkOut => "bulk-out"

end Pipe

structure Halts where
  control : Bool := false
  bulkIn : Bool := false
  bulkOut : Bool := false
  deriving DecidableEq, Repr

namespace Halts

def get (halts : Halts) : Pipe → Bool
  | .control => halts.control
  | .bulkIn => halts.bulkIn
  | .bulkOut => halts.bulkOut

def set (halts : Halts) (pipe : Pipe) (halt : Bool) : Halts :=
  match pipe with
  | .control => { halts with control := halt }
  | .bulkIn => { halts with bulkIn := halt }
  | .bulkOut => { halts with bulkOut := halt }

@[simp] theorem get_set (halts : Halts) (pipe other : Pipe) (halt : Bool) :
    (halts.set pipe halt).get other = if other = pipe then halt else halts.get other := by
  cases pipe <;> cases other <;> rfl

def raise (halts : Halts) (pipes : List Pipe) : Halts :=
  pipes.foldl (fun raised pipe => raised.set pipe true) halts

theorem get_raise (halts : Halts) (pipes : List Pipe) (pipe : Pipe) :
    (halts.raise pipes).get pipe = (halts.get pipe || decide (pipe ∈ pipes)) := by
  induction pipes generalizing halts with
  | nil => simp [raise]
  | cons first rest ih =>
    have next := ih (halts.set first true)
    simp only [raise, List.foldl_cons] at next ⊢
    rw [next]
    by_cases same : pipe = first <;> simp [same]

def isHalted (halts : Halts) (address : UInt8) : Bool :=
  (Pipe.ofAddress? address).any halts.get

end Halts

end BulkOnly
