import BulkOnly.SavedState

set_option autoImplicit false

namespace BulkOnly

inductive Error where
  | internal
  | busy
  | invalidSavedState (flaw : SavedState.Flaw)
  deriving DecidableEq, Repr

def Error.message : Error → String
  | .internal => "internal device error"
  | .busy => "a SCSI command is in flight"
  | .invalidSavedState flaw => s!"invalid saved state: {flaw.message}"

end BulkOnly
