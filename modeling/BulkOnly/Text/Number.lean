set_option autoImplicit false

namespace BulkOnly.Text

def hexDigits (width n : Nat) : String :=
  let digits := Nat.toDigits 16 n
  String.ofList (List.replicate (width - digits.length) '0' ++ digits)

def hex (width n : Nat) : String := "0x" ++ hexDigits width n

def byteList (bytes : List UInt8) : String :=
  "[" ++ ", ".intercalate (bytes.map (fun b => toString b.toNat)) ++ "]"

-- The largest unit that is reached, and of the fraction no trailing zeros.
def milliseconds (ms : Nat) : String :=
  if ms = 0 then "0ns"
  else if ms < 1000 then toString ms ++ "ms"
  else
    let fraction := ms % 1000
    let three := [fraction / 100, fraction / 10 % 10, fraction % 10]
    let kept := (three.reverse.dropWhile (fun digit => digit == 0)).reverse
    let tail := if kept.isEmpty then "" else "." ++ String.join (kept.map toString)
    toString (ms / 1000) ++ tail ++ "s"

end BulkOnly.Text
