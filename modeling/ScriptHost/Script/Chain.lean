import ScriptHost.Script.Calls

/-!
Chains: members, items and methods of a value, read or assigned to.

A chain walks from place to place. Lists and tables are entered in place; what a native instance
gives for a member is a value of its own, which is written back to the instance when the rest of
the chain has changed it.
-/

namespace ScriptHost.Script.Run

abbrev Prepared := Link × List Nat

/-- A member read from an instance: where the instance is, the member's name and the operand that
holds its value. -/
structure Borrowed where
  owner : Place
  name : String
  position : Nat
  source : Position

/-- The end of a chain that is assigned to. `value` is the operand and `position` the place of the
operator; `root` names what the chain begins with. -/
structure Assignment where
  operation? : Option Operation
  value : Nat
  position : Position
  root : String
  rootPosition : Position

def itemIndex? (index : Int64) (size : Nat) : Option Nat :=
  let offset := if index < 0 then index.toInt + size else index.toInt
  if 0 ≤ offset && offset < size then some offset.toNat else none

def noProperty {α : Type} (name : String) (value : Value) (position : Position) : Run α :=
  fail (.propertyAccess ("Unknown property '" ++ name ++
    "' - a getter is not registered for type '" ++ value.typeName ++ "'")) position

def newOperand : Run Place := do
  return .ofOperand ((← mark) - 1)

def builtinMember? (name : String) (value : Value) : Option Datum :=
  match name, value with
  | "len", .list _ | "len", .datum (.text _) =>
      (size? value).map fun size => .integer (Int64.ofNat size)
  | "is_empty", .list _ | "is_empty", .datum (.text _) =>
      (size? value).map fun size => .boolean (size == 0)
  | _, _ => none

def toProperty (env : Environment) (place : Place) (name : String) (position : Position) :
    Run Place := do
  match (← get).valueAt place with
  | .table entries =>
      if (entries.lookup name).isSome then
        return place.extend (.entry name)
      else
        fail (.propertyNotFound name) position
  | .object reference =>
      if env.types.declaresField name then
        native env (.read reference name) [] position
        newOperand
      else
        noProperty name (.object reference) position
  | value =>
      match builtinMember? name value with
      | some member =>
          push member
          newOperand
      | none => noProperty name value position

def noIndexer {α : Type} (value key : Value) (assigned? : Option Value) (position : Position) :
    Run α :=
  let assigned := match assigned? with
    | some value => " = " ++ value.typeName
    | none => ""
  fail (.noIndexer (value.typeName ++ " [" ++ key.typeName ++ "]" ++ assigned)) position

def bitOf (number : Int64) (bit : Nat) : Bool :=
  (number >>> Int64.ofNat bit) &&& 1 == 1

def withBit (number : Int64) (bit : Nat) (set : Bool) : Int64 :=
  let mask := (1 : Int64) <<< Int64.ofNat bit
  if set then number ||| mask else number &&& ~~~mask

def toItem (place : Place) (key : Value) (keyPosition position : Position) : Run Place := do
  match (← get).valueAt place, key with
  | .list items, .datum (.integer index) =>
      match itemIndex? index items.size with
      | some inside => return place.extend (.item inside)
      | none => fail (.itemOutOfBounds index items.size) keyPosition
  | .table entries, .datum (.text name) =>
      if (entries.lookup name).isSome then
        return place.extend (.entry name)
      else
        fail (.propertyNotFound name) keyPosition
  | .datum (.text text), .datum (.integer index) =>
      match itemIndex? index text.length with
      | some inside =>
          push (.letter (text.toList.getD inside ' '))
          newOperand
      | none => fail (.letterOutOfBounds index text.length) keyPosition
  | .datum (.integer number), .datum (.integer index) =>
      match itemIndex? index bitCount with
      | some bit =>
          push (.boolean (bitOf number bit))
          newOperand
      | none => fail (.bitOutOfBounds index) keyPosition
  | .list _, other | .datum (.text _), other | .datum (.integer _), other =>
      fail (.mismatch other.hostTypeName "i64") keyPosition
  | .table _, other => fail (.mismatch other.hostTypeName "string") keyPosition
  | value, key => noIndexer value key none position

/-- Pushes the new value of what is assigned to; `old` pushes the value before. -/
def newValue (env : Environment) (assignment : Assignment) (old : Run Unit) : Run Unit := do
  match assignment.operation? with
  | none => modify fun machine => machine.raise assignment.value
  | some operation =>
      old
      change env operation (← newOperand) assignment.value assignment.position

def assignPlace (env : Environment) (assignment : Assignment) (place : Place) : Run Unit := do
  match assignment.operation? with
  | none =>
      modify fun machine => machine.raise assignment.value
      modify fun machine => machine.assign place
  | some operation => change env operation place assignment.value assignment.position

def writeMember (env : Environment) (owner : Place) (name : String) (value : Nat)
    (position : Position) : Run Unit := do
  let held ← operand value
  match (← get).valueAt owner with
  | .object reference =>
      if env.types.declaresField name then
        if (← get).isConstant owner then
          fail (.constantProperty name) position
        native env (.write reference name held) [value] position
        modify Machine.drop
      else
        fail (.propertyAccess ("No writable property '" ++ name ++
          "' - a setter is not registered for type '" ++ Value.objectTypeName ++
          "' to handle '" ++ held.typeName ++ "'")) position
  | other =>
      fail (.propertyAccess ("No writable property '" ++ name ++
        "' - a setter is not registered for type '" ++ other.typeName ++ "' to handle '" ++
        held.typeName ++ "'")) position

def refuseConstant (place : Place) (assignment : Assignment) : Run Unit := do
  if (← get).isConstant place then
    fail (.constantVariable assignment.root) assignment.rootPosition

/-- A constant table takes new entries, but keeps those that it has. -/
def refuseEntry (place : Place) (name : String) (assignment : Assignment) : Run Unit := do
  match (← get).valueAt place with
  | .table entries =>
      if (entries.lookup name).isSome then
        refuseConstant place assignment
  | _ => return ()

/-- Assigns to an entry of a table. An operation finds a new entry with nothing in it. -/
def assignEntry (env : Environment) (assignment : Assignment) (place : Place) (name : String) :
    Run Unit := do
  refuseEntry place name assignment
  let entry := place.extend (.entry name)
  match assignment.operation?, (← get).valueAt? entry with
  | some _, none =>
      push .unit
      modify fun machine => machine.assignEntry place name
      assignPlace env assignment entry
  | none, none =>
      modify fun machine => machine.raise assignment.value
      modify fun machine => machine.assignEntry place name
  | _, some _ => assignPlace env assignment entry

def assignProperty (env : Environment) (assignment : Assignment) (place : Place) (name : String)
    (position : Position) : Run Unit := do
  match (← get).valueAt place with
  | .table _ =>
      assignEntry env assignment place name
      checkPlace env place assignment.position
  | .object reference =>
      newValue env assignment do
        if env.types.declaresField name then
          native env (.read reference name) [] position
        else
          noProperty name (.object reference) position
      writeMember env place name ((← mark) - 1) position
      modify Machine.drop
  | value =>
      if assignment.operation?.isSome then
        noProperty name value position
      writeMember env place name assignment.value position

def replaceLetter (text : String) (index : Nat) (letter : Char) : String :=
  String.ofList (text.toList.set index letter)

/-- Assigns to a character of a text, also where the text is a constant. -/
def assignLetter (env : Environment) (assignment : Assignment) (place : Place) (text : String)
    (index : Nat) : Run Unit := do
  newValue env assignment (push (.letter (text.toList.getD index ' ')))
  match (← get).top with
  | .datum (.letter letter) =>
      modify Machine.drop
      push (.text (replaceLetter text index letter))
      modify fun machine => machine.assign place
  | other => fail (.mismatch other.hostTypeName "char") assignment.position

def assignBit (env : Environment) (assignment : Assignment) (place : Place) (number : Int64)
    (bit : Nat) : Run Unit := do
  newValue env assignment (push (.boolean (bitOf number bit)))
  match (← get).top with
  | .datum (.boolean set) =>
      modify Machine.drop
      push (.integer (withBit number bit set))
      modify fun machine => machine.assign place
  | other => fail (.mismatch other.hostTypeName "bool") assignment.position

def assignItem (env : Environment) (assignment : Assignment) (place : Place) (key : Value)
    (keyPosition position : Position) : Run Unit := do
  let held ← operand assignment.value
  match (← get).valueAt place, key with
  | .table _, .datum (.text name) => assignEntry env assignment place name
  | .datum (.text text), .datum (.integer index) =>
      match itemIndex? index text.length with
      | some inside => assignLetter env assignment place text inside
      | none => fail (.letterOutOfBounds index text.length) keyPosition
  | .datum (.integer number), .datum (.integer index) =>
      match itemIndex? index bitCount with
      | some bit => assignBit env assignment place number bit
      | none => fail (.bitOutOfBounds index) keyPosition
  | .list _, _ | .datum (.text _), _ | .datum (.integer _), _ | .table _, _ =>
      let target ← toItem place key keyPosition position
      refuseConstant place assignment
      assignPlace env assignment target
  | value, key =>
      if assignment.operation?.isSome then noIndexer value key none position
      else noIndexer value key (some held) position

def prepare (self : Evaluator) (frame : Frame) : List Link → Run (List Prepared)
  | [] => return []
  | link :: rest => do
      let before ← mark
      match link with
      | .property .. => pure ()
      | .index key _ => self frame key
      | .method _ arguments _ => arguments.forM (self frame)
      let count := (← mark) - before
      let positions := (List.range count).map fun offset => before + offset
      let rest ← prepare self frame rest
      return (link, positions) :: rest

/-- Writes members back to their instances, innermost first. -/
def giveBack (env : Environment) : List Borrowed → Run Unit
  | [] => return ()
  | borrowed :: rest => do
      writeMember env borrowed.owner borrowed.name borrowed.position borrowed.source
      giveBack env rest

/-- Walks along a chain. The value at its end is pushed, or assigned to. -/
def walk (env : Environment) (self : Evaluator) (frame : Frame)
    (assignment? : Option Assignment) : List Prepared → Place → List Borrowed → Run Unit
  | [], place, _ => modify fun machine => machine.copy place
  | (.property name position, _) :: rest, place, borrowed => do
      match rest, assignment? with
      | [], some assignment =>
          assignProperty env assignment place name position
          giveBack env borrowed
          push .unit
      | _, _ =>
          let isObject := match (← get).valueAt place with
            | .object _ => true
            | _ => false
          let next ← toProperty env place name position
          let borrowed := match isObject, next.root with
            | true, .operand operand => ⟨place, name, operand, position⟩ :: borrowed
            | _, _ => borrowed
          walk env self frame assignment? rest next borrowed
  | (.index key position, positions) :: rest, place, borrowed => do
      let value ← operand (positions.headD 0)
      match rest, assignment? with
      | [], some assignment =>
          assignItem env assignment place value key.start position
          giveBack env borrowed
          push .unit
      | _, _ =>
          let next ← toItem place value key.start position
          walk env self frame assignment? rest next borrowed
  | (.method name arguments position, positions) :: rest, place, borrowed => do
      let start := (arguments.head?.map Term.position).getD position
      let changed ← givingUp positions
        (callMethod env self frame name place positions start position)
      match rest with
      | [] =>
          if changed then
            giveBack env borrowed
      | _ =>
          let next ← newOperand
          walk env self frame assignment? rest next borrowed

/-- The place of what a chain begins with. Anything but a variable is evaluated. -/
def rootPlace (env : Environment) (self : Evaluator) (frame : Frame) (root : Term) :
    Run Place := do
  match root with
  | .lookup name position =>
      match (← get).findVariable? frame.base name with
      | some index => return .ofVariable index
      | none =>
          if env.library.defines name then
            modify fun machine => machine.makeFunction name []
            newOperand
          else
            fail (.variableNotFound name) position
  | .receiver position =>
      match frame.receiver? with
      | some place => return place
      | none => fail .unboundReceiver position
  | other =>
      self frame other
      newOperand

/-- What is left of a chain that halts, after `arguments` operands for its links: what it has come
to is given up before the arguments that it has not come to. -/
def chainOrder (arguments count : Nat) : List Nat :=
  ((List.range (count - arguments)).reverse.map fun offset => arguments + offset) ++
    List.range arguments

/-- Evaluates a chain. Arguments come before the root, and nothing but the result stays. -/
def chain (env : Environment) (self : Evaluator) (frame : Frame)
    (assignment? : Option Assignment) (root : Term) (links : List Link) : Run Unit := do
  let before ← mark
  let prepared ← gathering inOrder (prepare self frame links)
  let arguments := (← mark) - before
  gatheringFrom before (chainOrder arguments) do
    let place ← rootPlace env self frame root
    walk env self frame assignment? prepared place []
  keepTop before

end ScriptHost.Script.Run
