import ScriptHost.Script.Equality
import ScriptHost.Script.Rendering

/-!
Calls of native functions.

Arguments are operands; a call uses them up and pushes its result. A function that takes its first
argument by reference may find it in place. What is built in is what `Native.builtins` lists.
-/

namespace ScriptHost.Script.Run

/-- The arguments of a call: operands, and the value before them that a method is called on. -/
structure Arguments where
  receiver? : Option Place
  positions : List Nat

namespace Arguments

def values (arguments : Arguments) (machine : Machine) : List Value :=
  (arguments.receiver?.map machine.valueAt).toList ++ arguments.positions.map machine.operand

def rest (arguments : Arguments) : List Nat :=
  match arguments.receiver? with
  | some _ => arguments.positions
  | none => arguments.positions.drop 1

def first (arguments : Arguments) : List Nat :=
  match arguments.receiver? with
  | some _ => []
  | none => arguments.positions.take 1

/-- The operands in the order in which a call gives them up: those that the function takes by
value before the one that it takes by reference. -/
def used (arguments : Arguments) (found : Native) : List Nat :=
  if found.byReference then arguments.rest ++ arguments.first else arguments.positions

end Arguments

def size? : Value → Option Nat
  | .datum (.text text) => some text.length
  | .list items => some items.size
  | .table entries => some entries.length
  | _ => none

def refuseConstantReceiver (name : String) (place : Place) (position : Position) : Run Unit := do
  if (← get).isConstant place then
    fail (.constantReceiver name) position

/-- Does what a built-in function does and pushes its result. What a function changes that it
does not find in place is lost. -/
def performBuiltin (env : Environment) (builtin : Builtin) (name : String)
    (arguments : Arguments) (values : List Value) (place? : Option Place)
    (position : Position) : Run Unit := do
  match builtin, values with
  | .nothing, _ => push (.text "")
  | .assembled, [value] => push (.text (← textOf env name value))
  | .asked name, [value] => push (.text (← textOf env name value))
  | .length, [value] => push (.integer (Int64.ofNat ((size? value).getD 0)))
  | .push, _ =>
      place?.forM fun place => do
        refuseConstantReceiver name place position
        arguments.rest.forM fun item => modify fun machine => machine.append place item
      push .unit
  | .clear, _ =>
      place?.forM fun place => do
        refuseConstantReceiver name place position
        modify fun machine => machine.clear place
      push .unit
  | .affirm, [.datum datum] => push datum
  | .negate, [.datum datum] =>
      match Arithmetic.negate datum with
      | .ok result => push result
      | .error problem => fail problem position
  | .complement, [.datum datum] => push (Arithmetic.complement datum)
  | .join, [left, right] => do
      let left ← display env left
      push (.text (left ++ (← display env right)))
  | .concatenate, _ =>
      match arguments.positions with
      | [left, right] => do
          modify fun machine => machine.raise left
          let place := Place.ofOperand ((← mark) - 1)
          modify fun machine => machine.appendItems place right
      | _ => push .unit
  | .merge, _ =>
      match arguments.positions with
      | [left, right] => do
          modify fun machine => machine.raise left
          let place := Place.ofOperand ((← mark) - 1)
          modify fun machine => machine.mergeEntries place right
      | _ => push .unit
  | .same, [left, right] => push (.boolean (← sameValue env position left right))
  | .different, [left, right] => push (.boolean !(← sameValue env position left right))
  | .display, [value] | .nested, [value] | .plain, [value] | .bare, [value] =>
      push (.text (plainText builtin value))
  | _, _ => push .unit

/-- Calls a native function. Its result and what it may have changed must stay within the
limits. -/
def perform (env : Environment) (found : Native) (name : String) (arguments : Arguments)
    (values : List Value) (place? : Option Place) (used : List Nat) (position : Position) :
    Run Unit := do
  match found.implementation, values with
  | .builtin builtin, values =>
      performBuiltin env builtin name arguments values place? position
      modify fun machine => machine.spendAll used
  | .description, [.object reference] =>
      push (.text (← objectText env reference))
      modify fun machine => machine.spendAll used
  | _, values =>
      match found.request? values with
      | some request => native env request used position
      | none => noFunction name values position
  if found.byReference then
    place?.forM fun place => checkPlace env place position
  checkTop env position

/-- What printing functions give is a text, which is printed or, for the host's eyes only,
dropped. -/
def output (name : String) (position : Position) : Run Unit := do
  if name == "print" || name == "debug" then
    match (← get).top with
    | .datum (.text text) =>
        modify fun machine => machine.drop
        if name == "print" then
          modify fun machine => machine.print text
        push .unit
    | other => fail (.outputMismatch other.typeName "string") position

/-- Calls the native function that a name means for the arguments. The answer is whether the first
argument may have been changed. -/
def callNative (env : Environment) (name : String) (arguments : Arguments)
    (place? : Option Place) (position : Position) : Run Bool := do
  let values := arguments.values (← get)
  match Native.resolve? env name values with
  | none => noFunction name values position
  | some found =>
      perform env found name arguments values place? (arguments.used found) position
      output name position
      return found.byReference

end ScriptHost.Script.Run
