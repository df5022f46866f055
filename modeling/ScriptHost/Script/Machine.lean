import ScriptHost.Native.Call

/-!
The machine that scripts run on.

Every script value is in a machine position: a variable, an operand, the cell of a captured
variable, or among the values thrown. The operations of this module move values between positions
or copy them, and count what a copy adds and what a discarded value takes away, so the number of
references that the heap counts for an instance is always the number of its occurrences.
-/

namespace ScriptHost.Script

structure Variable where
  name : String
  constant : Bool
  value : Value
deriving Inhabited

/-- The content of a captured variable and the number of values that share it. -/
structure Cell where
  content : Value
  holders : Nat
deriving Inhabited

/-- What a script is about to do. -/
inductive Occasion where
  | evaluation
  | request (wanted : Call.Request)
  | description (reference : Reference) (text : String)
  | delivery (value : Value)
  /-- To give up, with what it may have thrown. -/
  | failure

def Occasion.values : Occasion → List Value
  | evaluation | failure => []
  | request wanted => wanted.values
  | description reference _ => [.object reference]
  | delivery value => [value]

/-- The state of affairs on an occasion: the heap and what all script values hold on to. -/
structure Moment where
  occasion : Occasion
  heap : Heap Occupant
  holdings : List Holding

/-- A value that statements are about and that a program does not keep. -/
def Ghost (α : Type) : Type :=
  { is : α → Prop // ∃ value, is = Eq value }

namespace Ghost

variable {α β : Type}

def of (value : α) : Ghost α :=
  ⟨Eq value, value, rfl⟩

noncomputable def value (ghost : Ghost α) : α :=
  ghost.property.choose

theorem is_value (ghost : Ghost α) : ghost.val = Eq ghost.value :=
  ghost.property.choose_spec

@[simp] theorem value_of (value : α) : (of value).value = value :=
  (congrFun (of value).is_value value).mp rfl

@[inline] def map (change : α → β) (ghost : Ghost α) : Ghost β :=
  ⟨fun other => ∃ value, ghost.val value ∧ change value = other, by
    obtain ⟨value, same⟩ := ghost.property
    exact ⟨change value, funext fun other => propext (by simp [same])⟩⟩

@[simp] theorem value_map (change : α → β) (ghost : Ghost α) :
    (ghost.map change).value = change ghost.value := by
  have known : (ghost.map change).val (ghost.map change).value :=
    (ghost.map change).is_value ▸ rfl
  obtain ⟨value, same, changed⟩ := known
  rw [is_value] at same
  rw [← changed, ← same]

end Ghost

/-- A request of a script, and the store that it has met. -/
structure Asked where
  request : Call.Request
  store : Store

/-- `scope` has the variables in the order of their declaration, the globals first; `operands` are
the values of expressions under way. `history` has the moments that scripts have passed through, and
`asked` their requests, the last one first. These two are there for statements about them: nothing
looks at them, and a program does not keep them. -/
structure Machine where
  store : Store
  output : Array String
  scope : Array Variable
  operands : Array Value
  cells : Array Cell
  thrown : Array Value
  operations : Nat
  history : Moment → Prop
  asked : Ghost (List Asked)

inductive Root where
  | variable (index : Nat)
  | operand (index : Nat)
  | cell (index : Nat)
deriving DecidableEq, Repr

inductive Step where
  | item (index : Nat)
  | entry (name : String)
deriving DecidableEq, Repr

structure Place where
  root : Root
  path : List Step
deriving DecidableEq, Repr

namespace Place

def ofVariable (index : Nat) : Place := ⟨.variable index, []⟩

def ofOperand (index : Nat) : Place := ⟨.operand index, []⟩

def extend (place : Place) (step : Step) : Place := ⟨place.root, place.path ++ [step]⟩

end Place

namespace Value

def inside? : List Step → Value → Option Value
  | [], value => some value
  | .item index :: rest, .list items => items[index]? >>= inside? rest
  | .entry name :: rest, .table entries => entries.lookup name >>= inside? rest
  | _ :: _, _ => none

def alterInside (change : Value → Value) : List Step → Value → Value
  | [], value => change value
  | .item index :: rest, .list items => .list (items.modify index (alterInside change rest))
  | .entry name :: rest, .table entries =>
      .table (alterEntry name (alterInside change rest) entries)
  | _ :: _, value => value

end Value

namespace Machine

def initial (generator : Random.Generator) : Machine :=
  ⟨⟨.empty, generator⟩, #[], #[], #[], #[], #[], 0, fun _ => False, .of []⟩

def mapHeap (change : Heap Occupant → Heap Occupant) (machine : Machine) : Machine :=
  { machine with store := machine.store.mapHeap change }

def holdings (machine : Machine) : List Holding :=
  Value.itemHoldings (machine.scope.toList.map Variable.value) ++
    (Value.itemHoldings machine.operands.toList ++
      (Value.itemHoldings (machine.cells.toList.map Cell.content) ++
        Value.itemHoldings machine.thrown.toList))

def record (occasion : Occasion) (machine : Machine) : Machine :=
  { machine with
    history := fun moment =>
      moment = ⟨occasion, machine.store.heap, machine.holdings⟩ ∨ machine.history moment
    asked := match occasion with
      | .request wanted => machine.asked.map fun earlier => ⟨wanted, machine.store⟩ :: earlier
      | _ => machine.asked }

/-! ### Counting references -/

def retain (machine : Machine) : Holding → Machine
  | .object reference =>
      machine.mapHeap fun heap =>
        match heap.anchor reference.handle with
        | .ok anchored => anchored
        | .error _ => heap
  | .cell index =>
      { machine with
        cells := machine.cells.modify index fun cell => ⟨cell.content, cell.holders + 1⟩ }

def retainAll (holdings : List Holding) (machine : Machine) : Machine :=
  holdings.foldl retain machine

/-- Counts one reference less to a cell. The content of a cell that nobody shares any more is
given with the machine. -/
def leaveCell (index : Nat) (machine : Machine) : Value × Machine :=
  match machine.cells[index]? with
  | none => (.unit, machine)
  | some cell =>
      if cell.holders ≤ 1 then
        (cell.content, { machine with cells := machine.cells.set! index ⟨.unit, 0⟩ })
      else
        let leave (cell : Cell) : Cell := ⟨cell.content, cell.holders - 1⟩
        (.unit, { machine with cells := machine.cells.modify index leave })

/-- Counts one reference less for each holding, in order. What was in a cell goes away with the
last reference to it; `depth` bounds the cells within cells. -/
def releaseAll : Nat → List Holding → Machine → Machine
  | 0, _, machine => machine
  | depth + 1, holdings, machine =>
      holdings.foldl (fun machine holding =>
        match holding with
        | .object reference => machine.mapHeap fun heap => heap.unanchor reference.handle
        | .cell index =>
            let (content, machine) := machine.leaveCell index
            releaseAll depth content.holdings machine) machine

def release (value : Value) (machine : Machine) : Machine :=
  match value with
  | .datum _ => machine
  | value => releaseAll (machine.cells.size + 1) value.holdings machine

/-- A captured variable is in its cell. -/
def rootOf (machine : Machine) (root : Root) : Root :=
  let through (value? : Option Value) : Root :=
    match value? with
    | some (.shared cell) => .cell cell
    | _ => root
  match root with
  | .variable index => through (machine.scope[index]?.map Variable.value)
  | .operand index => through machine.operands[index]?
  | .cell index => .cell index

def valueAt? (machine : Machine) (place : Place) : Option Value :=
  let value? := match machine.rootOf place.root with
    | .variable index => machine.scope[index]?.map Variable.value
    | .operand index => machine.operands[index]?
    | .cell index => machine.cells[index]?.map Cell.content
  value? >>= Value.inside? place.path

def valueAt (machine : Machine) (place : Place) : Value :=
  (machine.valueAt? place).getD .unit

def operand (machine : Machine) (position : Nat) : Value :=
  machine.valueAt (.ofOperand position)

def top (machine : Machine) : Value :=
  machine.operand (machine.operands.size - 1)

def findVariable? (machine : Machine) (base : Nat) (name : String) : Option Nat :=
  go machine.scope.size
where
  go : Nat → Option Nat
  | 0 => none
  | index + 1 =>
      if index < base then none
      else
        match machine.scope[index]? with
        | some entry => if entry.name == name then some index else go index
        | none => go index

def isShared (machine : Machine) (place : Place) : Bool :=
  match machine.rootOf place.root, place.path with
  | .cell _, [] => true
  | _, _ => false

def isConstant (machine : Machine) (place : Place) : Bool :=
  match place.root with
  | .variable index =>
      match machine.scope[index]? with
      | some entry => entry.constant
      | none => false
  | _ => false

/-- The innermost constant with a name, unless a variable hides it. -/
def findConstant? (machine : Machine) (name : String) : Option Nat :=
  (machine.findVariable? 0 name).filter fun index => machine.isConstant (.ofVariable index)

def isBoundTo (machine : Machine) (place : Place) : Value → Bool
  | .function _ bound =>
      match machine.rootOf place.root with
      | .cell cell => bound.any fun value => match value with
          | .shared other => other == cell
          | _ => false
      | _ => false
  | _ => false

def pushRaw (value : Value) (machine : Machine) : Machine :=
  { machine with operands := machine.operands.push value }

def pushLiteral (literal : Literal) (machine : Machine) : Machine :=
  machine.pushRaw literal.value

def push (datum : Datum) (machine : Machine) : Machine :=
  machine.pushLiteral (.datum datum)

def copy (place : Place) (machine : Machine) : Machine :=
  let value := machine.valueAt place
  (machine.retainAll value.holdings).pushRaw value

/-- Pushes a copy of a value, or of what is in the captured variable that it stands for. -/
def pushCopy (value : Value) (machine : Machine) : Machine :=
  match value with
  | .shared cell => machine.copy ⟨.cell cell, []⟩
  | value => (machine.retainAll value.holdings).pushRaw value

def drop (machine : Machine) : Machine :=
  let value := machine.operands.back?.getD .unit
  ({ machine with operands := machine.operands.pop }).release value

def dropMany : Nat → Machine → Machine
  | 0, machine => machine
  | count + 1, machine => dropMany count machine.drop

def dropTo (size : Nat) (machine : Machine) : Machine :=
  dropMany (machine.operands.size - size) machine

/-- Takes the value of an operand and leaves nothing in its place. -/
def takeOperand (position : Nat) (machine : Machine) : Value × Machine :=
  match machine.operands[position]? with
  | some value => (value, { machine with operands := machine.operands.set! position .unit })
  | none => (.unit, machine)

def raise (position : Nat) (machine : Machine) : Machine :=
  let (value, machine) := machine.takeOperand position
  machine.pushRaw value

def spend (machine : Machine) (position : Nat) : Machine :=
  let (value, machine) := machine.takeOperand position
  machine.release value

def spendAll (positions : List Nat) (machine : Machine) : Machine :=
  positions.foldl spend machine

def spendFrom (size : Nat) (machine : Machine) : Machine :=
  machine.spendAll ((List.range (machine.operands.size - size)).map fun offset => size + offset)

def keepTop (size : Nat) (machine : Machine) : Machine :=
  if machine.operands.size ≤ size + 1 then
    machine
  else
    let value := machine.operands.back?.getD .unit
    let rest := { machine with operands := machine.operands.pop }
    (rest.dropTo size).pushRaw value

def makeList (size : Nat) (machine : Machine) : Machine :=
  let items := machine.operands.extract size machine.operands.size
  ({ machine with operands := machine.operands.take size }).pushRaw (.list items)

/-- Makes a table of the operands from a position on, one for each name. Values that the table has
no place for are given up. -/
def makeTable (names : List String) (size : Nat) (machine : Machine) : Machine :=
  let values := (machine.operands.extract size machine.operands.size).toList
  let (entries, replaced) := Value.mergeEntries (names.zip values) []
  let surplus := replaced ++ values.drop names.length
  (({ machine with operands := machine.operands.take size }).pushRaw (.table entries)).release
    (.list surplus.toArray)

/-! ### Variables -/

def declare (name : String) (constant : Bool) (machine : Machine) : Machine :=
  let value := machine.operands.back?.getD .unit
  { machine with
    operands := machine.operands.pop
    scope := machine.scope.push ⟨name, constant, value⟩ }

def declareAll : List (String × Nat) → Machine → Machine
  | [], machine => machine
  | (name, position) :: rest, machine =>
      let (value, machine) := machine.takeOperand position
      declareAll rest { machine with
        scope := machine.scope.push ⟨name, false, value⟩ }

def declareCopies : List (String × Value) → Machine → Machine
  | [], machine => machine
  | (name, value) :: rest, machine =>
      let machine := machine.retainAll value.holdings
      declareCopies rest { machine with
        scope := machine.scope.push ⟨name, false, value⟩ }

def forget (machine : Machine) : Machine :=
  match machine.scope.back? with
  | some entry =>
      ({ machine with scope := machine.scope.pop }).release entry.value
  | none => machine

def forgetMany : Nat → Machine → Machine
  | 0, machine => machine
  | count + 1, machine => forgetMany count machine.forget

def forgetTo (size : Nat) (machine : Machine) : Machine :=
  forgetMany (machine.scope.size - size) machine

def setConstant (index : Nat) (constant : Bool) (machine : Machine) : Machine :=
  let mark (entry : Variable) : Variable := ⟨entry.name, constant, entry.value⟩
  { machine with scope := machine.scope.modify index mark }

def alter (place : Place) (change : Value → Value) (machine : Machine) : Machine :=
  let change := Value.alterInside change place.path
  match machine.rootOf place.root with
  | .variable index =>
      let apply (entry : Variable) : Variable := ⟨entry.name, entry.constant, change entry.value⟩
      { machine with scope := machine.scope.modify index apply }
  | .operand index => { machine with operands := machine.operands.modify index change }
  | .cell index =>
      let apply (cell : Cell) : Cell := ⟨change cell.content, cell.holders⟩
      { machine with cells := machine.cells.modify index apply }

def replace (place : Place) (value : Value) (machine : Machine) : Machine :=
  match machine.valueAt? place with
  | some old => (machine.alter place fun _ => value).release old
  | none => machine.release value

def assign (place : Place) (machine : Machine) : Machine :=
  let value := machine.operands.back?.getD .unit
  ({ machine with operands := machine.operands.pop }).replace place value

/-- Moves the last operand into a variable itself, also where that has been captured. -/
def redeclare (index : Nat) (constant : Bool) (machine : Machine) : Machine :=
  let value := machine.operands.back?.getD .unit
  let machine := { machine with operands := machine.operands.pop }
  match machine.scope[index]? with
  | some old =>
      let renew (entry : Variable) : Variable := ⟨entry.name, constant, value⟩
      ({ machine with scope := machine.scope.modify index renew }).release old.value
  | none => machine.release value

/-- Moves the last operand into a table, under a name that the table does not have yet. -/
def assignEntry (place : Place) (name : String) (machine : Machine) : Machine :=
  let value := machine.operands.back?.getD .unit
  let machine := { machine with operands := machine.operands.pop }
  match machine.valueAt? (place.extend (.entry name)), machine.valueAt? place with
  | none, some (.table _) =>
      machine.alter place fun held =>
        match held with
        | .table entries => .table (Value.insertEntry name value entries)
        | other => other
  | _, _ => machine.replace (place.extend (.entry name)) value

def append (place : Place) (position : Nat) (machine : Machine) : Machine :=
  match machine.valueAt? place with
  | some (.list _) =>
      if place.root = .operand position then
        machine
      else
        let (value, machine) := machine.takeOperand position
        machine.alter place fun held =>
          match held with
          | .list items => .list (items.push value)
          | other => other
  | _ => machine

def appendItems (place : Place) (position : Nat) (machine : Machine) : Machine :=
  match machine.valueAt? place, machine.operands[position]? with
  | some (.list _), some (.list added) =>
      if place.root = .operand position then
        machine
      else
        let (_, machine) := machine.takeOperand position
        machine.alter place fun held =>
          match held with
          | .list items => .list (items ++ added)
          | other => other
  | _, _ => machine

def mergeEntries (place : Place) (position : Nat) (machine : Machine) : Machine :=
  match machine.valueAt? place, machine.operands[position]? with
  | some (.table old), some (.table added) =>
      if place.root = .operand position then
        machine
      else
        let (_, machine) := machine.takeOperand position
        let (merged, replaced) := Value.mergeEntries added old
        (machine.alter place fun _ => .table merged).release (.list replaced.toArray)
  | _, _ => machine

def clear (place : Place) (machine : Machine) : Machine :=
  match machine.valueAt? place with
  | some (.datum (.text _)) => machine.alter place fun _ => .datum (.text "")
  | some (.list items) => (machine.alter place fun _ => .list #[]).release (.list items)
  | some (.table entries) => (machine.alter place fun _ => .table []).release (.table entries)
  | _ => machine

def takeItem (position index : Nat) (machine : Machine) : Machine :=
  let place : Place := ⟨.operand position, [.item index]⟩
  match machine.valueAt? place with
  | some value => (machine.alter place fun _ => .unit).pushRaw value
  | none => machine.pushRaw .unit

def share (index : Nat) (machine : Machine) : Nat × Machine :=
  match machine.scope[index]? with
  | none => (machine.cells.size, machine)
  | some entry =>
      match entry.value with
      | .shared cell => (cell, machine)
      | value =>
          let cell := machine.cells.size
          let point (entry : Variable) : Variable := ⟨entry.name, entry.constant, .shared cell⟩
          (cell, { machine with
            cells := machine.cells.push ⟨value, 1⟩
            scope := machine.scope.modify index point })

def pushShared (cell : Nat) (machine : Machine) : Machine :=
  (machine.retain (.cell cell)).pushRaw (.shared cell)

def makeFunction (name : String) (bound : List Value) (machine : Machine) : Machine :=
  (machine.retainAll (Value.function name bound).holdings).pushRaw (.function name bound)

def bindOperand (machine : Machine) (position : Nat) : Machine :=
  match machine.operands.back? with
  | some (.function name bound) =>
      let last := machine.operands.size - 1
      if position = last then
        machine
      else
        let (value, machine) := machine.takeOperand position
        { machine with
          operands := machine.operands.set! last (.function name (bound ++ [value])) }
  | _ => machine

def bindOperands (positions : List Nat) (machine : Machine) : Machine :=
  positions.foldl bindOperand machine

def throwTop (machine : Machine) : Machine :=
  let value := machine.operands.back?.getD .unit
  { machine with
    operands := machine.operands.pop
    thrown := machine.thrown.push value }

def throwDatum (datum : Datum) (machine : Machine) : Machine :=
  { machine with thrown := machine.thrown.push (.datum datum) }

def copyThrown (machine : Machine) : Machine :=
  let value := machine.thrown.back?.getD .unit
  (machine.retainAll value.holdings).pushRaw value

def dropThrown (machine : Machine) : Machine :=
  match machine.thrown.back? with
  | some value => ({ machine with thrown := machine.thrown.pop }).release value
  | none => machine

def dropThrownAt (index : Nat) (machine : Machine) : Machine :=
  match machine.thrown[index]? with
  | some value => ({ machine with thrown := machine.thrown.eraseIdxIfInBounds index }).release value
  | none => machine

def dropAllThrown (machine : Machine) : Machine :=
  go machine.thrown.size machine
where
  go : Nat → Machine → Machine
  | 0, machine => machine
  | count + 1, machine => go count machine.dropThrown

/-! ### Exchange with the host -/

def receive (value : HostValue) (machine : Machine) : Except Fault Unit × Machine :=
  let ⟨⟨heap, generator⟩, output, scope, operands, cells, thrown, operations, history, asked⟩ :=
    machine
  match value.toScript heap with
  | .ok (value, heap) =>
      (.ok (), ⟨⟨heap, generator⟩, output, scope, operands.push value, cells, thrown,
        operations, history, asked⟩)
  | .error fault =>
      (.error fault,
        ⟨⟨heap, generator⟩, output, scope, operands, cells, thrown, operations, history, asked⟩)

/-- The host form of the last operand. An instance is pinned. -/
def handOver (machine : Machine) : Except Fault HostValue × Machine :=
  let machine := machine.record (.delivery machine.top)
  match machine.top.toHost machine.store.heap .any with
  | .ok (.object handle) =>
      match machine.store.heap.pin handle with
      | .ok heap =>
          (.ok (.object handle), { machine with store := ⟨heap, machine.store.generator⟩ })
      | .error fault => (.error fault, machine)
  | outcome => (outcome, machine)

/-- Nothing is left but the printed lines and the random numbers to come. -/
def shutDown (machine : Machine) : Machine :=
  let heap := machine.store.heap.clear
  ⟨⟨heap, machine.store.generator⟩, machine.output, #[], #[], #[], #[], machine.operations,
    machine.history, machine.asked⟩

def collect (machine : Machine) : Machine :=
  { machine with store := machine.store.collect }

/-- Meets a request of the script and pushes the result. What is noted is the heap as the native
callable finds it, that is, after the collection at the beginning of the call. -/
def callNative (types : TypeRegistry) (request : Call.Request) (machine : Machine) :
    Except Fault Unit × Machine :=
  let ⟨store, output, scope, operands, cells, thrown, operations, history, asked⟩ :=
    machine.collect.record (.request request)
  match store.run (request.call types >>= Call.toScript) with
  | (.ok value, store) =>
      (.ok (), ⟨store, output, scope, operands.push value, cells, thrown, operations, history,
        asked⟩)
  | (.error fault, store) =>
      (.error fault, ⟨store, output, scope, operands, cells, thrown, operations, history, asked⟩)

def print (line : String) (machine : Machine) : Machine :=
  { machine with output := machine.output.push line }

def objectText (types : TypeRegistry) (machine : Machine) (reference : Reference) : String :=
  match machine.store.heap.resident? reference.handle, types.types[reference.typeId]? with
  | some resident, some descriptor =>
      descriptor.render reference.handle resident.content.body
  | _, _ => "<stale " ++ reference.handle.text ++ ">"

end Machine
end ScriptHost.Script
