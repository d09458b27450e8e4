import BulkOnly.Bytes

set_option autoImplicit false

namespace BulkOnly.Scsi

abbrev Sense := Vector UInt8 18

namespace Sense

def zero : Sense := Vector.replicate 18 0

def fixed (key code qualifier : UInt8) : Sense :=
  #v[0x70, 0, key &&& 0x0f, 0, 0, 0, 0, 10, 0, 0, 0, 0, code, qualifier, 0, 0, 0, 0]

def noSense : Sense := fixed 0x00 0 0

def abortedCommand : Sense := fixed 0x0b 0 0

-- Sense data may come cut short; what is missing reads as zero.
def key (sense : Bytes) : UInt8 := sense.getD 2 0 &&& 0x0f

def code (sense : Bytes) : UInt8 := sense.getD 12 0

def qualifier (sense : Bytes) : UInt8 := sense.getD 13 0

theorem key_fixed (k c q : UInt8) : key (fixed k c q).toList = k &&& 0x0f := by
  have twice : (k &&& 0x0f) &&& 0x0f = k &&& 0x0f := by
    rw [UInt8.and_assoc]
    rfl
  simpa [key, fixed] using twice

theorem code_fixed (k c q : UInt8) : code (fixed k c q).toList = c := rfl

theorem qualifier_fixed (k c q : UInt8) : qualifier (fixed k c q).toList = q := rfl

def overwrite (sense : Sense) (front : Bytes) : Sense :=
  Bytes.padded 18 (front ++ sense.toList.drop front.length)

end Sense

end BulkOnly.Scsi
