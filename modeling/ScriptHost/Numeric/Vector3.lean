import ScriptHost.Numeric.Scalar

/-!
Vectors with three finite components.

Every operation that could leave the finite numbers checks its result and fails otherwise; only
negation needs no check.
-/

namespace ScriptHost

structure Vector3 where
  x : Float
  y : Float
  z : Float
deriving Repr, Inhabited

namespace Vector3

def zero : Vector3 := ⟨0.0, 0.0, 0.0⟩

def finite (value : Float) (operation : String) : Except Fault Float :=
  if value.isFinite then
    .ok value
  else
    .error (.domain (operation ++ " produced a non-finite value"))

def checked (x y z : Float) (operation : String) : Except Fault Vector3 := do
  let x ← finite x operation
  let y ← finite y operation
  let z ← finite z operation
  return ⟨x, y, z⟩

def add (left right : Vector3) : Except Fault Vector3 :=
  checked (left.x + right.x) (left.y + right.y) (left.z + right.z) "add"

def subtract (left right : Vector3) : Except Fault Vector3 :=
  checked (left.x - right.x) (left.y - right.y) (left.z - right.z) "subtract"

def scale (vector : Vector3) (factor : Float) : Except Fault Vector3 :=
  checked (vector.x * factor) (vector.y * factor) (vector.z * factor) "scalar multiply"

def divide (vector : Vector3) (divisor : Float) : Except Fault Vector3 :=
  if divisor == 0.0 then
    .error (.domain "division of a vector by zero")
  else
    checked (vector.x / divisor) (vector.y / divisor) (vector.z / divisor) "divide"

def negate (vector : Vector3) : Vector3 :=
  ⟨-vector.x, -vector.y, -vector.z⟩

def dot (left right : Vector3) : Except Fault Float :=
  finite (left.x * right.x + left.y * right.y + left.z * right.z) "dot"

def cross (left right : Vector3) : Except Fault Vector3 :=
  checked
    (left.y * right.z - left.z * right.y)
    (left.z * right.x - left.x * right.z)
    (left.x * right.y - left.y * right.x)
    "cross"

def lengthSquared (vector : Vector3) : Except Fault Float :=
  vector.dot vector

def length (vector : Vector3) : Except Fault Float := do
  let squared ← vector.lengthSquared
  return squared.sqrt

/-- Points count as the vectors that lead to them. -/
def distance (start finish : Vector3) : Except Fault Float := do
  let difference ← finish.subtract start
  difference.length

def normalize (vector : Vector3) : Except Fault Vector3 := do
  let length ← vector.length
  if length == 0.0 then
    .error (.domain "cannot normalize a zero-length vector")
  else
    checked (vector.x / length) (vector.y / length) (vector.z / length) "normalize"

/-- Rotation about an axis through the origin, by Rodrigues' formula. -/
def rotated (vector axis : Vector3) (angle : Float) : Except Fault Vector3 := do
  let unit ← match axis.normalize with
    | .ok unit => .ok unit
    | .error _ => .error (Fault.domain "rotation axis has zero length")
  let along ← unit.scale ((← unit.dot vector) * (1.0 - angle.cos))
  let turned ← vector.scale angle.cos
  let turned ← turned.add (← (← unit.cross vector).scale angle.sin)
  turned.add along

def lerp (start finish : Vector3) (parameter : Float) : Except Fault Vector3 :=
  checked
    (Scalar.lerp start.x finish.x parameter)
    (Scalar.lerp start.y finish.y parameter)
    (Scalar.lerp start.z finish.z parameter)
    "lerp"

def same (left right : Vector3) : Bool :=
  left.x == right.x && left.y == right.y && left.z == right.z

def display (vector : Vector3) : String :=
  "Vector3(" ++ Decimal.plain vector.x ++ ", " ++ Decimal.plain vector.y ++ ", " ++
    Decimal.plain vector.z ++ ")"

end Vector3
end ScriptHost
