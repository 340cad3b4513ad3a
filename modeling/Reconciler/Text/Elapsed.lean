import Reconciler.Error
/-!
Durations as diagnostics show them: in the largest unit of which there is a whole one, with
the digits of the rest that are needed.
-/

set_option autoImplicit false

namespace Reconciler.Duration

/-- The digits after the point of `part` out of `10 ^ width`, without zeros at the end. -/
def fractionDigits (part width : Nat) : List Char :=
  ((paddedText width part).toList.reverse.dropWhile (· = '0')).reverse

def inUnits (whole part width : Nat) (unit : String) : String :=
  let point := if part = 0 then "" else "." ++ String.ofList (fractionDigits part width)
  natText whole ++ point ++ unit

def describe (d : Duration) : String :=
  if 0 < d.seconds then inUnits d.seconds d.subsecond 9 "s"
  else if 1000000 ≤ d.nanos then inUnits (d.nanos / 1000000) (d.nanos % 1000000) 6 "ms"
  else if 1000 ≤ d.nanos then inUnits (d.nanos / 1000) (d.nanos % 1000) 3 "µs"
  else inUnits d.nanos 0 0 "ns"

end Reconciler.Duration
