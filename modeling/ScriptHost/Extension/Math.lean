import ScriptHost.Session

/-!
The extension for mathematics: the type `Vector3` and the module `math`.

Every component of a vector is finite. Whatever could break that is checked before the vector is
made or changed.
-/

namespace ScriptHost.Extension.Math

abbrev vectorType : HostType := ⟨"scriptbridge_math::vector3::Vector3", .vector⟩

def numberAt (arguments : List HostValue) (index : Nat) : Except Fault Float :=
  match arguments[index]? with
  | some value => value.asNumber
  | none => .error (.typeMismatch .number "nothing")

def vectorOf (value : HostValue) : Routine Vector3 :=
  Routine.contentOf vectorType value

def vectorAt (arguments : List HostValue) (index : Nat) : Routine Vector3 :=
  vectorOf (arguments.getD index .null)

def newVector (vector : Vector3) : Routine HostValue :=
  Routine.new vectorType vector

def component (value : HostValue) : Except Fault Float := do
  let number ← value.asNumber
  if number.isFinite then
    return number
  else
    .error (.domain ("vector component must be finite, got " ++ Decimal.plain number))

def componentField (read : Vector3 → Float) (write : Vector3 → Float → Vector3) :
    Field vectorType :=
  ⟨.number, fun vector => .number (read vector),
    some fun vector value =>
      match component value with
      | .ok number => (write vector number, .ok ())
      | .error fault => (vector, .error fault)⟩

def fields : List (String × Field vectorType) := [
  ("x", componentField Vector3.x fun vector number => ⟨number, vector.y, vector.z⟩),
  ("y", componentField Vector3.y fun vector number => ⟨vector.x, number, vector.z⟩),
  ("z", componentField Vector3.z fun vector number => ⟨vector.x, vector.y, number⟩)]

/-- Without arguments the zero vector, otherwise the vector with three components. -/
def constructors : List (Constructor vectorType) := [
  ⟨[], fun _ => return Vector3.zero⟩,
  ⟨[.number, .number, .number], fun arguments => do
    let x ← numberAt arguments 0
    let y ← numberAt arguments 1
    let z ← numberAt arguments 2
    Vector3.checked x y z "Vector3"⟩]

def measure (compute : Vector3 → Except Fault Float) : Method vectorType :=
  ⟨[], fun vector _ => return .number (← compute vector)⟩

def measureWith (compute : Vector3 → Vector3 → Except Fault Float) : Method vectorType :=
  ⟨[.object], fun vector arguments => do
    let other ← vectorAt arguments 0
    return .number (← compute vector other)⟩

def withVectorAndNumber (compute : Vector3 → Vector3 → Float → Except Fault Vector3) :
    Method vectorType :=
  ⟨[.object, .number], fun vector arguments => do
    let other ← vectorAt arguments 0
    let number ← numberAt arguments 1
    newVector (← compute vector other number)⟩

def methods : List (String × Method vectorType) := [
  ("length", measure Vector3.length),
  ("length_squared", measure Vector3.lengthSquared),
  ("normalize", ⟨[], fun vector _ => do newVector (← Vector3.normalize vector)⟩),
  ("dot", measureWith Vector3.dot),
  ("cross", ⟨[.object], fun vector arguments => do
    let other ← vectorAt arguments 0
    newVector (← Vector3.cross vector other)⟩),
  ("distance", measureWith Vector3.distance),
  ("rotated", withVectorAndNumber Vector3.rotated),
  ("lerp", withVectorAndNumber Vector3.lerp)]

def between (operator : Operator) (compute : Vector3 → Vector3 → Except Fault Vector3) :
    OperatorEntry :=
  ⟨operator, .object, some .object, fun left right => do
    let left ← vectorOf left
    let right ← vectorOf right
    newVector (← compute left right)⟩

def byNumber (operator : Operator) (compute : Vector3 → Float → Except Fault Vector3) :
    OperatorEntry :=
  ⟨operator, .object, some .number, fun left right => do
    let left ← vectorOf left
    newVector (← compute left (← right.asNumber))⟩

def comparison (operator : Operator) (compute : Vector3 → Vector3 → Bool) : OperatorEntry :=
  ⟨operator, .object, some .object, fun left right => do
    let left ← vectorOf left
    let right ← vectorOf right
    return .boolean (compute left right)⟩

def operators : List OperatorEntry := [
  between .add Vector3.add,
  between .subtract Vector3.subtract,
  byNumber .multiply Vector3.scale,
  ⟨.multiply, .number, some .object, fun left right => do
    let right ← vectorOf right
    newVector (← right.scale (← left.asNumber))⟩,
  byNumber .divide Vector3.divide,
  comparison .equal Vector3.same,
  comparison .notEqual fun left right => !left.same right,
  ⟨.negate, .object, none, fun operand _ => do
    let vector ← vectorOf operand
    newVector vector.negate⟩]

def vector : TypeDescriptor where
  name := "Vector3"
  type := vectorType
  constructors := constructors
  fields := fields
  methods := methods
  operators := operators
  display? := some Vector3.display

def describe (value : HostValue) : Routine String :=
  match value with
  | .object _ => Routine.typeNameOf value
  | other => return other.kind.name

def lerp (arguments : List HostValue) : Routine HostValue := do
  let parameter ← numberAt arguments 2
  let start := arguments.getD 0 .null
  let finish := arguments.getD 1 .null
  match start, finish with
  | .number first, .number last => return .number (Scalar.lerp first last parameter)
  | _, _ =>
      let startsAtVector ← Routine.isInstance vectorType start
      if startsAtVector && (← Routine.isInstance vectorType finish) then
        let first ← vectorOf start
        let last ← vectorOf finish
        newVector (← first.lerp last parameter)
      else
        match start with
        | .number _ => throwMismatch .number finish
        | _ =>
            if startsAtVector then throwMismatch .object finish
            else throwMismatch .number start
where
  throwMismatch (expected : Kind) (found : HostValue) : Routine HostValue := do
    Routine.fail (.typeMismatch expected (← describe found))

def functions : List FunctionDescriptor := [
  .fixed "radians" [.number] fun arguments =>
    return .number (Scalar.radians (← numberAt arguments 0)),
  .fixed "degrees" [.number] fun arguments =>
    return .number (Scalar.degrees (← numberAt arguments 0)),
  .fixed "lerp" [.any, .any, .number] lerp,
  .fixed "clamp" [.number, .number, .number] fun arguments => do
    let value ← numberAt arguments 0
    let low ← numberAt arguments 1
    let high ← numberAt arguments 2
    return .number (← Scalar.clamp value low high),
  .fixed "random" [.number, .number] fun arguments => do
    let low ← numberAt arguments 0
    let high ← numberAt arguments 1
    return .number (← Routine.random (.float low high)),
  .fixed "random_int" [.number, .number] fun arguments => do
    let low ← numberAt arguments 0
    let high ← numberAt arguments 1
    return .number (← Routine.random (.integer low high))]

end Math

def math : Extension :=
  .type Math.vector :: Math.functions.map (Registration.moduleFunction "math")

end ScriptHost.Extension
