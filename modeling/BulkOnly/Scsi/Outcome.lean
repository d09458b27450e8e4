set_option autoImplicit false

namespace BulkOnly.Scsi

abbrev Status := UInt8

namespace Status

def good : Status := 0x00

def checkCondition : Status := 0x02

def isGood (status : Status) : Bool := status = good

end Status

structure Outcome where
  status : Status
  transferred : Nat
  retry : Bool := false
  deriving DecidableEq, Repr

namespace Outcome

def good (transferred : Nat) : Outcome := { status := Status.good, transferred }

def checkCondition (transferred : Nat) : Outcome :=
  { status := Status.checkCondition, transferred }

end Outcome

end BulkOnly.Scsi
