import ScriptHost.HostValue

/-!
Arithmetic on numbers that scripts can call: angles, interpolation and limits.

All formulas are evaluated in double precision in the order written.
-/

namespace ScriptHost.Scalar

def pi : Float := 3.141592653589793

def radians (degrees : Float) : Float :=
  degrees * pi / 180.0

def degrees (radians : Float) : Float :=
  radians * 180.0 / pi

/-- Exact at `0` and at `1`; the parameter is not limited to that range. -/
def lerp (start finish parameter : Float) : Float :=
  start * (1.0 - parameter) + finish * parameter

/-- A value that is not a number stays as it is. -/
def limit (value low high : Float) : Float :=
  let value := if value < low then low else value
  if value > high then high else value

def clamp (value low high : Float) : Except Fault Float :=
  if low.isNaN || high.isNaN || low > high then
    .error (.domain ("clamp bounds are inverted: min " ++ Decimal.plain low ++ " > max " ++
      Decimal.plain high))
  else
    .ok (limit value low high)

end ScriptHost.Scalar
