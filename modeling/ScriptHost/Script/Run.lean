import ScriptHost.Script.Arithmetic
import ScriptHost.Script.Limits
import ScriptHost.Script.Machine

/-!
Runs: what scripts do to the machine.

A run either ends or halts. A halt leaves a function, a loop or the whole script; whoever takes it
up again puts the operands and the variables back to where they were.
-/

namespace ScriptHost.Script

/-- What a script can reach besides the machine. Function values find closures also where these do
not belong to the library any more. -/
structure Environment where
  types : TypeRegistry
  functions : FunctionRegistry
  library : Library
  closures : Library
  limits : Limits

/-- A function that is running: where its variables begin, how many calls it is away from the top
of the script, and what it was called on. -/
structure Frame where
  base : Nat
  level : Nat
  receiver? : Option Place

def Frame.outermost : Frame := ⟨0, 0, none⟩

/-- Reasons to leave the terms under way. The value of a function or a loop that is left is the last
operand. -/
inductive Halt where
  | returning
  | breaking
  | continuing
  | raised (failure : Failure)

def Halt.hasValue : Halt → Bool
  | returning | breaking => true
  | continuing | raised _ => false

abbrev Run (α : Type) := EStateM Halt Machine α

namespace Run

variable {α : Type}

def record (occasion : Occasion) : Run Unit :=
  modify fun machine => machine.record occasion

def fail (problem : Problem) (position : Position) : Run α := do
  record .failure
  throw (.raised (.located problem position))

def tick (env : Environment) (position : Position) : Run Unit := do
  record .evaluation
  modify fun machine => { machine with operations := machine.operations + 1 }
  if !Limits.allows env.limits.operations (← get).operations then
    fail .tooManyOperations position

/-- The number of operands, which is the position of the next one. -/
def mark : Run Nat := do
  return (← get).operands.size

def push (datum : Datum) : Run Unit :=
  modify fun machine => machine.push datum

def keepTop (mark : Nat) : Run Unit :=
  modify fun machine => machine.keepTop mark

def operand (position : Nat) : Run Value := do
  return (← get).operand position

def checkExtent (env : Environment) (extent : Extent) (position : Position) : Run Unit := do
  if !Limits.allows env.limits.textSize extent.bytes then
    fail .textTooLong position
  if !Limits.allows env.limits.listSize extent.items then
    fail .listTooLong position
  if !Limits.allows env.limits.tableSize extent.entries then
    fail .tableTooLong position

def checkPlace (env : Environment) (place : Place) (position : Position) : Run Unit := do
  checkExtent env ((← get).valueAt place).extent position

def checkTop (env : Environment) (position : Position) : Run Unit := do
  checkExtent env (← get).top.extent position

def pushText (env : Environment) (text : String) (position : Position) : Run Unit := do
  checkExtent env ⟨0, 0, text.utf8ByteSize⟩ position
  push (.text text)

def noFunction (name : String) (values : List Value) (position : Position) : Run α :=
  fail (.functionNotFound
    (name ++ " (" ++ ", ".intercalate (values.map Value.signatureName) ++ ")")) position

/-- Makes a request with values of operands, which it uses up in the order given. A fault is
thrown. -/
def native (env : Environment) (request : Call.Request) (used : List Nat) (position : Position) :
    Run Unit := do
  let outcome ← modifyGet fun machine =>
    let (outcome, machine) := machine.callNative env.types request
    (outcome, machine.spendAll used)
  match outcome with
  | .ok _ => checkTop env position
  | .error fault =>
      modify fun machine => machine.throwDatum (.fault fault)
      fail .thrown position

/-- Runs something with variables and operands of its own. At the end its variables are given up,
and of its operands only the last one stays, if it has a meaning. -/
def enclosed (inner : Run Unit) : Run Unit := fun machine =>
  let operands := machine.operands.size
  let scope := machine.scope.size
  match inner machine with
  | .ok _ machine => .ok () ((machine.keepTop operands).forgetTo scope)
  | .error halt machine =>
      let machine := if halt.hasValue then machine.keepTop operands else machine.dropTo operands
      .error halt (machine.forgetTo scope)

def givingUp (positions : List Nat) (inner : Run α) : Run α := fun machine =>
  match inner machine with
  | .ok result machine => .ok result machine
  | .error halt machine => .error halt (machine.spendAll positions)

/-- Runs something that gathers operands from a position on. If it halts, they are discarded in the
order that `order` gives for their number, a value that goes along with the halt apart. -/
def gatheringFrom (before : Nat) (order : Nat → List Nat) (inner : Run α) : Run α :=
  fun machine =>
    match inner machine with
    | .ok result machine => .ok result machine
    | .error halt machine =>
        let gathered := machine.operands.size - before - if halt.hasValue then 1 else 0
        .error halt (machine.spendAll ((order gathered).map fun offset => before + offset))

def gathering (order : Nat → List Nat) (inner : Run α) : Run α := fun machine =>
  gatheringFrom machine.operands.size order inner machine

def inOrder (count : Nat) : List Nat := List.range count

def backwards (count : Nat) : List Nat := (List.range count).reverse

def byName (names : List String) (count : Nat) : List Nat :=
  let named := names.zip (List.range count)
  (named.mergeSort fun left right => decide (left.1 ≤ right.1)).map Prod.snd

def spendingAfter (position : Nat) (inner : Run α) : Run α := fun machine =>
  match inner machine with
  | .ok result machine => .ok result (machine.spend position)
  | .error halt machine => .error halt (machine.spend position)

/-- One turn of a loop. The answer is whether to go on; otherwise the value of the loop is the last
operand. -/
def turn (body : Run Unit) : Run Bool := fun machine =>
  let operands := machine.operands.size
  match body machine with
  | .ok _ machine => .ok true (machine.dropTo operands)
  | .error .continuing machine => .ok true (machine.dropTo operands)
  | .error .breaking machine => .ok false (machine.keepTop operands)
  | .error halt machine => .error halt machine

def repeatWhile (position : Position) : Nat → Run Bool → Run Unit
  | 0, _ => fail .tooManyOperations position
  | fuel + 1, turn => do
      if ← turn then
        repeatWhile position fuel turn

end Run
end ScriptHost.Script
