import BulkOnly.Stage

set_option autoImplicit false

namespace BulkOnly

inductive Slot where
  | vacant
  | held (phase : Phase) (transaction : Transaction)
  | executing (generation : Nat)
  deriving DecidableEq, Repr

namespace Slot

def stage? : Slot → Option Stage
  | vacant => none
  | held phase _ => some phase.stage
  | executing _ => some .executing

def stage (slot : Slot) : Stage := slot.stage?.getD .ready

def isExecuting : Slot → Bool
  | executing _ => true
  | vacant | held .. => false

def kept : Slot → Nat
  | held _ transaction => transaction.buffer.length
  | vacant | executing _ => 0

-- A vacant slot is ready for a command as well; it just has no sense data to tell.
def rewound : Slot → Slot
  | vacant => vacant
  | held _ transaction => held .ready transaction.rewound
  | executing generation => executing generation

theorem kept_rewound (slot : Slot) : slot.rewound.kept = slot.kept := by
  cases slot <;> rfl

end Slot

end BulkOnly
