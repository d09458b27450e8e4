import BulkOnly.Device
import BulkOnly.Error

set_option autoImplicit false

namespace BulkOnly.Device

def save (d : Device) : Except Error SavedState :=
  if d.slot.isExecuting then .error .busy
  else .ok
    { configuration := d.configuration
      bulkInHalted := d.halts.bulkIn
      bulkOutHalted := d.halts.bulkOut
      transaction := d.slot.saved }

def restoredTo (d : Device) (saved : SavedState) (slot : Slot) : Device :=
  log
    { d with
      configuration := saved.configuration
      halts := { d.halts with bulkIn := saved.bulkInHalted, bulkOut := saved.bulkOutHalted }
      slot }
    (.restored slot.stage)

def restore (d : Device) (saved : SavedState) : Except Error Device :=
  match saved.slot with
  | .error flaw => .error (.invalidSavedState flaw)
  | .ok slot => if d.slot.isExecuting then .error .busy else .ok (d.restoredTo saved slot)

end BulkOnly.Device
