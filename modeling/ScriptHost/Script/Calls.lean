import ScriptHost.Script.Name
import ScriptHost.Script.Operators

/-!
Calls by name.

A name is looked for among the functions of scripts, then among native functions. Some names mean
something else: they make function values, call them, and ask about values. Arguments are operands;
a call uses them up and pushes its result.
-/

namespace ScriptHost.Script.Run

/-- Evaluates a term in a frame and pushes its value. -/
abbrev Evaluator := Frame → Term → Run Unit

/-- Runs the body of a function whose parameters have been declared since `variables`. -/
def runBody (self : Evaluator) (function : Function) (frame : Frame) : Run Unit :=
  fun machine =>
    match self frame function.body machine with
    | .error .returning machine => .ok () machine
    | result => result

def callFunction (env : Environment) (self : Evaluator) (frame : Frame) (function : Function)
    (bound : List Value) (receiver? : Option Place) (positions : List Nat)
    (position : Position) : Run Unit := do
  let level := frame.level + 1
  if !Limits.allows env.limits.callLevels level then
    fail .stackOverflow position
  let scope := (← get).scope.size
  let inner : Run Unit := do
    modify fun machine =>
      (machine.declareCopies (function.parameters.zip bound)).declareAll
        ((function.parameters.drop bound.length).zip positions)
    runBody self function ⟨scope, level, receiver?⟩
  fun machine =>
    match enclosed inner machine with
    | .error (.raised failure) machine =>
        .error (.raised (failure.leaving function.name position)) machine
    | result => result

/-- Calls a function for the host, with operands as its arguments. The function sees the globals,
and failures are not marked with the call. -/
def callFromHost (self : Evaluator) (function : Function) (positions : List Nat) : Run Unit :=
  let inner : Run Unit := do
    modify fun machine => machine.declareAll (function.parameters.zip positions)
    runBody self function .outermost
  fun machine =>
    match enclosed inner machine with
    | .error (.raised failure) machine => .error (.raised failure.leavingToHost) machine
    | result => result

def findFunction? (env : Environment) (name : String) (count : Nat) : Option Function :=
  match env.closures.find? name count with
  | some function => some function
  | none => env.library.find? name count

/-- Calls a function value, on a receiver if there is one. A native function takes the receiver as
its first argument. -/
def callValue (env : Environment) (self : Evaluator) (frame : Frame) (name : String)
    (bound : List Value) (receiver? : Option Place) (positions : List Nat)
    (position : Position) : Run Unit := do
  match findFunction? env name (bound.length + positions.length) with
  | some function =>
      callFunction env self frame function bound receiver? positions position
  | none =>
      let before ← mark
      bound.forM fun value => modify fun machine => machine.pushCopy value
      let copies := (List.range bound.length).map fun offset => before + offset
      let _ ← callNative env name ⟨receiver?, copies ++ positions⟩ none position
      keepTop before

def noFunctionValue {α : Type} (value : Value) (position : Position) : Run α :=
  fail (.mismatch value.typeName "Fn") position

def functionNamed (value : Value) (argument : Position) : Run Unit := do
  match value with
  | .datum (.text name) =>
      if Name.isCallable name then modify fun machine => machine.makeFunction name []
      else fail (.functionNotFound name) argument
  | other => fail (.mismatch other.hostTypeName "string") argument

def bindArguments (value : Value) (positions : List Nat) (position : Position) : Run Unit := do
  match value with
  | .function name bound =>
      modify fun machine => (machine.makeFunction name bound).bindOperands positions
  | other => noFunctionValue other position

/-- Calls a function of a script or a native one. The answer is whether the receiver may have been
changed by native code. -/
def callNamed (env : Environment) (self : Evaluator) (frame : Frame) (name : String)
    (arguments : Arguments) (place? : Option Place) (position : Position) : Run Bool := do
  match name, arguments.values (← get) with
  | "type_of", [value] =>
      push (.text value.typeName)
      modify fun machine => machine.spendAll arguments.positions
      return false
  | _, _ =>
      match env.library.find? name arguments.positions.length with
      | some function =>
          callFunction env self frame function [] arguments.receiver? arguments.positions
            position
          return false
      | none => callNative env name arguments place? position

def checkRaces (name : String) (place : Place) (positions : List Nat) : Run Unit := do
  let machine ← get
  match positions.findIdx? fun argument => machine.isBoundTo place (machine.operand argument) with
  | some index => throw (.raised ⟨.dataRace (index + 1) name, none, []⟩)
  | none => return ()

/-- Calls a method of the value at a place. A function that a table has under the name counts as a
method of the table. The answer is whether the value may have been changed by native code. -/
def callMethod (env : Environment) (self : Evaluator) (frame : Frame) (name : String)
    (place : Place) (positions : List Nat) (start position : Position) : Run Bool := do
  let machine ← get
  let target := machine.valueAt place
  match name, target, positions with
  | "call", .function name bound, positions =>
      callValue env self frame name bound none positions position
      return false
  | "call", target, [] => noFunctionValue target position
  | "call", _, first :: rest =>
      match machine.operand first with
      | .function name bound =>
          callValue env self frame name bound (some place) rest position
          return false
      | other => noFunctionValue other start
  | "curry", target, positions =>
      bindArguments target positions position
      return false
  | "is_shared", _, [] =>
      push (.boolean (machine.isShared place))
      return false
  | name, target, positions =>
      let entry? := match target with
        | .table entries => entries.lookup name
        | _ => none
      match entry? with
      | some (.function target bound) =>
          callValue env self frame target bound (some place) positions position
          return false
      | _ =>
          checkRaces name place positions
          callNamed env self frame name ⟨some place, positions⟩ (some place) position

def callInModule (env : Environment) (space name : String) (positions : List Nat)
    (start position : Position) : Run Unit := do
  if !env.functions.hasSpace space then
    fail (.moduleNotFound space) start
  let values := positions.map (← get).operand
  let full := space ++ "::" ++ name
  match env.functions.modules.find? space name with
  | some function =>
      if values.length ≤ argumentLimit then
        native env (.function function values) positions position
      else
        noFunction full values position
  | none => noFunction full values position

end ScriptHost.Script.Run
