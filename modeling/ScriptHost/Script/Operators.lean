import ScriptHost.Script.Builtins

/-!
Operators between script values.

Plain data have their own operators, which no other function replaces. With an instance on either
side, and between lists and tables, an operator is a function like others; comparisons between
values of different types that nothing else decides are those of plain data.
-/

namespace ScriptHost.Script.Run

/-- Applies an operator as a function to two operands and uses them up, the right one first. -/
def applyFunction (env : Environment) (operation : Operation) (left right : Nat)
    (position : Position) : Run Unit := do
  let leftValue ← operand left
  let rightValue ← operand right
  let finish (outcome : Outcome) : Run Unit := do
    match outcome with
    | some (.ok datum) =>
        push datum
        modify fun machine => machine.spendAll [right, left]
        checkTop env position
    | some (.error problem) => fail problem position
    | none => noFunction operation.symbol [leftValue, rightValue] position
  match Native.resolve? env operation.symbol [leftValue, rightValue] with
  | some found =>
      perform env found operation.symbol ⟨none, [left, right]⟩ [leftValue, rightValue] none
        [right, left] position
  | none =>
      match Arithmetic.outcome operation leftValue rightValue with
      | some outcome => finish (some outcome)
      | none =>
          if leftValue.typeName == rightValue.typeName then finish none
          else finish (Arithmetic.unlike operation)

def binary (env : Environment) (operation : Operation) (left right : Nat)
    (position : Position) : Run Unit := do
  match Arithmetic.outcome operation (← operand left) (← operand right) with
  | some (.ok datum) =>
      push datum
      modify fun machine => machine.spendAll [right, left]
      checkTop env position
  | some (.error problem) => fail problem position
  | none => applyFunction env operation left right position

def unary (env : Environment) (symbol : String) (position : Position) : Run Unit := do
  let place := (← mark) - 1
  let value ← operand place
  match Native.resolve? env symbol [value] with
  | some found =>
      perform env found symbol ⟨none, [place]⟩ [value] none [place] position
      keepTop place
  | none => noFunction symbol [value] position

/-- What a plain value becomes. An integer does not turn into a float like this. -/
def changed? (operation : Operation) (held added : Value) : Outcome :=
  match held, added with
  | .datum (.integer _), .datum (.float _) => none
  | held, added => Arithmetic.outcome operation held added

def isEmptyText : Value → Bool
  | .datum (.text text) => text.isEmpty
  | _ => false

/-- The length of a text counts only if something is added to something. -/
def checkGrowth (env : Environment) (held added : Value) (result : Datum)
    (position : Position) : Run Unit := do
  if !isEmptyText held && !isEmptyText added then
    checkExtent env (Value.datum result).extent position

/-- Changes a value by functions: one for the change itself, or else the operator. -/
def changeByFunction (env : Environment) (operation : Operation) (place : Place) (added : Nat)
    (position : Position) : Run Unit := do
  let held := (← get).valueAt place
  let value ← operand added
  let symbol := operation.symbol ++ "="
  match Native.resolve? env symbol [held, value] with
  | some found =>
      match found.implementation with
      | .builtin .mergeInto => modify fun machine => machine.mergeEntries place added
      | .builtin _ =>
          push (.text ((← display env held) ++ (← display env value)))
          modify fun machine => machine.assign place
      | _ =>
          perform env found symbol ⟨none, []⟩ [held, value] none [] position
          modify Machine.drop
  | none =>
      modify fun machine => machine.copy place
      let copied := (← mark) - 1
      applyFunction env operation copied added position
      modify fun machine => machine.assign place
      modify fun machine => machine.dropTo copied
  checkPlace env place position

def change (env : Environment) (operation : Operation) (place : Place) (added : Nat)
    (position : Position) : Run Unit := do
  let held := (← get).valueAt place
  let value ← operand added
  match operation, held, value with
  | .add, .list _, .list _ =>
      modify fun machine => machine.appendItems place added
      checkPlace env place position
  | .add, .list _, _ =>
      modify fun machine => machine.append place added
      checkPlace env place position
  | _, _, _ =>
      match changed? operation held value with
      | some (.ok result) =>
          checkGrowth env held value result position
          push result
          modify fun machine => machine.assign place
      | some (.error problem) => fail problem position
      | none => changeByFunction env operation place added position

end ScriptHost.Script.Run
