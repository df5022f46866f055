import ScriptHost.Session

/-!
A small extension to try a session with: counters, tags, and a function of each sort.
-/

namespace ScriptHost.Extension.Counters

abbrev counterType : HostType := ⟨"driver::Counter", .number⟩

abbrev tagType : HostType := ⟨"driver::Tag", .empty⟩

def valueOf (counter : HostValue) : Routine Float :=
  Routine.contentOf counterType counter

def newCounter (value : Float) : Routine HostValue :=
  Routine.new counterType value

def argument (arguments : List HostValue) : HostValue :=
  arguments.headD .null

def counterFields : List (String × Field counterType) := [
  ("value", ⟨.number, fun value => .number value,
    some fun value new =>
      match new.asNumber with
      | .ok number => (number, .ok ())
      | .error fault => (value, .error fault)⟩),
  ("doubled", ⟨.number, fun value => .number (Float.mul value 2.0), none⟩)]

def counterOperators : List OperatorEntry := [
  ⟨.add, .object, some .object, fun left right => do
    let left ← valueOf left
    let right ← valueOf right
    newCounter (left + right)⟩,
  ⟨.multiply, .number, some .object, fun left right => do
    let factor ← left.asNumber
    let value ← valueOf right
    newCounter (factor * value)⟩,
  ⟨.equal, .object, some .object, fun left right => do
    let left ← valueOf left
    let right ← valueOf right
    return .boolean (left == right)⟩]

def counter : TypeDescriptor where
  name := "Counter"
  type := counterType
  constructors := [⟨[.number], fun arguments => (argument arguments).asNumber⟩]
  fields := counterFields
  methods := [("add", ⟨[.number], fun value arguments => do
    newCounter (Float.add value (← (argument arguments).asNumber))⟩)]
  operators := counterOperators
  display? := some fun value => "Counter<" ++ Decimal.plain value ++ ">"

def tag : TypeDescriptor where
  name := "Tag"
  type := tagType
  constructors := [⟨[], fun _ => return ()⟩]
  fields := [("label", ⟨.text, fun _ => .text "tag", none⟩)]
  methods := [("describe", ⟨[], fun _ _ => return .text "a tag"⟩)]
  operators := []
  display? := none

def typeLabel (value : HostValue) : Routine HostValue := do
  if ← Routine.isInstance counterType value then
    return .text "counter"
  else
    match value with
    | .object _ => return .text (← Routine.typeNameOf value)
    | other => return .text other.kind.name

def functions : List FunctionDescriptor := [
  .fixed "half" [.number] fun arguments => do
    let value ← (argument arguments).asNumber
    return .number (value / 2.0),
  .fixed "boom" [] fun _ => Routine.fail (.domain "boom"),
  .variadic "count" fun arguments => return .number arguments.length.toFloat,
  .fixed "live" [] fun _ => return .number (← Routine.liveObjects).toFloat,
  .fixed "type_label" [.any] fun arguments => typeLabel (argument arguments)]

def shout : FunctionDescriptor :=
  .fixed "shout" [.text] fun arguments =>
    return .text (← (argument arguments).asText).toUpper

end Counters

def counters : Extension :=
  [.type Counters.counter, .type Counters.tag] ++ Counters.functions.map .function ++
    [.moduleFunction "util" Counters.shout]

end ScriptHost.Extension
