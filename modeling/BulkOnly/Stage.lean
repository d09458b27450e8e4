import BulkOnly.Transaction

set_option autoImplicit false

namespace BulkOnly

-- `destroyOnCompletion` is the stage of a transaction that a reset gave up on. No device is
-- ever in it; a saved state can claim it.
inductive Stage where
  | ready
  | dataFromHost
  | executing
  | dataToHost
  | status
  | destroyOnCompletion
  deriving DecidableEq, Repr

def Phase.stage : Phase → Stage
  | .ready => .ready
  | .dataFromHost => .dataFromHost
  | .dataToHost => .dataToHost
  | .status => .status

namespace Stage

def phase? : Stage → Option Phase
  | ready => some .ready
  | dataFromHost => some .dataFromHost
  | dataToHost => some .dataToHost
  | status => some .status
  | executing | destroyOnCompletion => none

theorem phase?_eq_some_iff {stage : Stage} {phase : Phase} :
    stage.phase? = some phase ↔ stage = phase.stage := by
  cases stage <;> cases phase <;> simp [phase?, Phase.stage]

def name : Stage → String
  | ready => "Ready"
  | dataFromHost => "DataFromHost"
  | executing => "Executing"
  | dataToHost => "DataToHost"
  | status => "Status"
  | destroyOnCompletion => "DestroyOnCompletion"

end Stage

end BulkOnly
