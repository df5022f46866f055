import ScriptHost.Script.Chain

/-!
Evaluation of terms.

Every term pushes exactly one operand unless it halts. The depth of evaluation is bounded by the
number of operations allowed, since every term counts as one.
-/

namespace ScriptHost.Script.Run

def takeBoolean (position : Position) : Run Bool := do
  let value := (← get).top
  modify Machine.drop
  match value with
  | .datum (.boolean truth) => return truth
  | other => fail (.mismatch other.hostTypeName "bool") position

/-- Pushes the value of a variable. The name of a function stands for the function. -/
def lookup (env : Environment) (frame : Frame) (name : String) (position : Position) :
    Run Unit := do
  match (← get).findVariable? frame.base name with
  | some index => modify fun machine => machine.copy (.ofVariable index)
  | none =>
      if env.library.defines name then
        modify fun machine => machine.makeFunction name []
      else
        fail (.variableNotFound name) position

def receiver (frame : Frame) (position : Position) : Run Place :=
  match frame.receiver? with
  | some place => return place
  | none => fail .unboundReceiver position

/-- Items of a list or a table; the limits count what is there after each of them. -/
def items (env : Environment) (self : Evaluator) (frame : Frame) (counted : Extent) :
    List Term → Extent → Run Unit
  | [], _ => return ()
  | item :: rest, extent => do
      self frame item
      let extent := (extent.add (← get).top.extent).add counted
      checkExtent env extent item.position
      items env self frame counted rest extent

def pieces (env : Environment) (self : Evaluator) (frame : Frame) :
    List Term → String → Run Unit
  | [], text => push (.text text)
  | piece :: rest, text => do
      self frame piece
      let text := text ++ (← display env (← get).top)
      modify Machine.drop
      checkExtent env ⟨0, 0, text.utf8ByteSize⟩ piece.position
      pieces env self frame rest text

/-- Statements in order. The value of each stays until the next one has its own. -/
def sequence (self : Evaluator) (frame : Frame) (mark : Nat) : List Term → Run Unit
  | [] => return ()
  | statement :: rest => do
      self frame statement
      keepTop mark
      sequence self frame mark rest

def block (self : Evaluator) (frame : Frame) (statements : List Term) : Run Unit := do
  let before ← mark
  push .unit
  sequence self frame before statements

/-- The place that a term names, if it names one, and whether a function may change what it finds
there: neither the variable of a closure nor a constant. -/
def namedPlace? (frame : Frame) (term : Term) (machine : Machine) : Option Place :=
  match term with
  | .lookup name _ =>
      ((machine.findVariable? frame.base name).map Place.ofVariable).filter fun place =>
        !machine.isShared place && !machine.isConstant place
  | .receiver _ => frame.receiver?.filter fun place => !machine.isShared place
  | _ => none

/-- The arguments of a call. A first argument that names a variable or the receiver is looked at
after the others have been evaluated; the answer has its place, if a native function may change
what is there. -/
def evaluateArguments (self : Evaluator) (frame : Frame) (arguments : List Term) :
    Run (List Nat × Option Place) := do
  let before ← mark
  let named := match arguments.head? with
    | some (.lookup ..) | some (.receiver _) => true
    | _ => false
  let ordered := if named then arguments.drop 1 ++ arguments.take 1 else arguments
  ordered.forM (self frame)
  let offsets := List.range arguments.length
  let offsets := if named then offsets.drop offsets.length.pred ++ offsets.take offsets.length.pred
    else offsets
  let machine ← get
  return (offsets.map fun offset => before + offset,
    arguments.head?.bind fun first => namedPlace? frame first machine)

def boundValue (self : Evaluator) (frame : Frame) (term : Term) : Run Unit := do
  let machine ← get
  let cell? := match term with
    | .lookup name _ =>
        (machine.findVariable? frame.base name).bind fun index =>
          match machine.scope[index]? with
          | some ⟨_, _, .shared cell⟩ => some cell
          | _ => none
    | _ => none
  match cell? with
  | some cell => modify fun machine => machine.pushShared cell
  | none => self frame term

/-- Calls by name. Some names make function values, call them, or ask whether a variable is shared;
their first argument is looked at before the others are evaluated. -/
def call (env : Environment) (self : Evaluator) (frame : Frame) (name : String)
    (arguments : List Term) (position : Position) : Run Unit := do
  let before ← mark
  gathering inOrder do
    match name, arguments with
    | "call", target :: rest =>
        self frame target
        let value := (← get).top
        if !value.isFunction then
          noFunctionValue value target.start
        let (positions, _) ← evaluateArguments self frame rest
        match ← operand before with
        | .function function bound =>
            callValue env self frame function bound none positions position
        | other => noFunctionValue other target.start
    | "curry", target :: first :: rest =>
        self frame target
        let value := (← get).top
        if !value.isFunction then
          noFunctionValue value target.start
        (first :: rest).forM (boundValue self frame)
        let count := (first :: rest).length
        bindArguments (← operand before)
          ((List.range count).map fun offset => before + 1 + offset) target.start
    | "Fn", [target] =>
        self frame target
        functionNamed (← get).top target.start
    | "is_shared", [.lookup variable_ place] =>
        lookup env frame variable_ place
        let machine ← get
        let shared := (machine.findVariable? frame.base variable_).any fun index =>
          machine.isShared (.ofVariable index)
        push (.boolean shared)
    | "is_shared", [target] =>
        self frame target
        push (.boolean false)
    | name, arguments =>
        let (positions, place?) ← evaluateArguments self frame arguments
        let _ ← callNamed env self frame name ⟨none, positions⟩ place? position
  keepTop before

def moduleCall (env : Environment) (self : Evaluator) (frame : Frame) (space name : String)
    (arguments : List Term) (start position : Position) : Run Unit := do
  let before ← mark
  gathering inOrder do
    let (positions, _) ← evaluateArguments self frame arguments
    callInModule env space name positions start position
  keepTop before

def capture (self : Evaluator) (frame : Frame) (term : Term) : Run Unit := do
  match term with
  | .lookup name position =>
      match (← get).findVariable? frame.base name with
      | some index =>
          let cell ← modifyGet fun machine => machine.share index
          modify fun machine => machine.pushShared cell
      | none => fail (.variableNotFound name) position
  | other => self frame other

def closure (self : Evaluator) (frame : Frame) (name : String) (bound : List Term) :
    Run Unit := do
  let before ← mark
  gathering inOrder (bound.forM (capture self frame))
  modify fun machine => (machine.makeFunction name []).bindOperands
    ((List.range bound.length).map fun offset => before + offset)
  keepTop before

def assignWhole (env : Environment) (operation? : Option Operation) (place : Place) (value : Nat)
    (position : Position) : Run Unit := do
  match operation? with
  | none =>
      modify fun machine => machine.raise value
      modify fun machine => machine.assign place
  | some operation => change env operation place value position
  push .unit

def assignVariable (env : Environment) (self : Evaluator) (frame : Frame)
    (operation? : Option Operation) (name : String) (value : Term)
    (namePosition position : Position) : Run Unit := do
  let before ← mark
  self frame value
  match (← get).findVariable? frame.base name with
  | none =>
      if env.library.defines name then
        fail (.constantVariable name) namePosition
      fail (.variableNotFound name) namePosition
  | some index =>
      if (← get).isConstant (.ofVariable index) then
        fail (.constantVariable name) namePosition
      assignWhole env operation? (.ofVariable index) before position

def assignReceiver (env : Environment) (self : Evaluator) (frame : Frame)
    (operation? : Option Operation) (value : Term) (namePosition position : Position) :
    Run Unit := do
  let before ← mark
  self frame value
  let place ← receiver frame namePosition
  if (← get).isConstant place then
    fail (.constantVariable "") namePosition
  assignWhole env operation? place before position

def assignChain (env : Environment) (self : Evaluator) (frame : Frame)
    (operation? : Option Operation) (root : Term) (links : List Link) (value : Term)
    (position : Position) : Run Unit := do
  let before ← mark
  self frame value
  let rootName := match root with
    | .lookup name _ => name
    | _ => ""
  chain env self frame (some ⟨operation?, before, position, rootName, root.position⟩) root links

def assignment (env : Environment) (self : Evaluator) (frame : Frame)
    (operation? : Option Operation) (target value : Term) (position : Position) :
    Run Unit := do
  let before ← mark
  gathering inOrder do
    match target with
    | .lookup name namePosition =>
        assignVariable env self frame operation? name value namePosition position
    | .receiver namePosition =>
        assignReceiver env self frame operation? value namePosition position
    | .chain root links _ => assignChain env self frame operation? root links value position
    | other => fail (.constantVariable "") other.position
  keepTop before

def checkScope (env : Environment) (frame : Frame) (position : Position) : Run Unit := do
  let count := (← get).scope.size - frame.base + 1
  if !Limits.allows env.limits.scopeSize count then
    fail .tooManyVariables position

def declaration (env : Environment) (self : Evaluator) (frame : Frame) (name : String)
    (constant again : Bool) (value : Term) (position : Position) : Run Unit := do
  if !again then
    checkScope env frame position
  self frame value
  let found? := (← get).findVariable? frame.base name
  match again, found? with
  | true, some index => modify fun machine => machine.redeclare index constant
  | _, _ => modify fun machine => machine.declare name constant
  push .unit

/-- A loop with a condition. Its value is that of the `break` which leaves it, if any does. -/
def whileLoop (self : Evaluator) (frame : Frame) (condition body : Term) (fuel : Nat)
    (tick : Run Unit) (position : Position) : Run Unit := do
  let again : Run Bool := do
    tick
    self frame condition
    if ← takeBoolean condition.position then
      turn (self frame body)
    else
      push .unit
      return false
  repeatWhile position fuel again

/-- Goes over what `next` gives for 0, 1, 2, …, up to the count. -/
def overItems (self : Evaluator) (frame : Frame) (body : Term) (variable_ : Nat)
    (next : Nat → Run Unit) (tick : Run Unit) : Nat → Nat → Run Unit
  | 0, _ => push .unit
  | remaining + 1, index => do
      tick
      next index
      modify fun machine => machine.assign (.ofVariable variable_)
      if ← turn (self frame body) then
        overItems self frame body variable_ next tick remaining (index + 1)

def rangeCount (first last : Int64) (inclusive : Bool) : Nat :=
  (last.toInt - first.toInt + if inclusive then 1 else 0).toNat

/-- How many items a value has to go over, and how the items of the operand at `position` are
pushed. -/
def iteration? (position : Nat) : Value → Option (Nat × (Nat → Run Unit))
  | .list values =>
      some (values.size, fun index => modify fun machine => machine.takeItem position index)
  | .datum (.range first last inclusive) =>
      some (rangeCount first last inclusive, fun index =>
        push (.integer (Int64.ofInt (first.toInt + index))))
  | .datum (.text text) =>
      let letters := text.toList.toArray
      some (letters.size, fun index => push (.letter (letters.getD index ' ')))
  | _ => none

/-- A loop over the items of a value. Items that it has not come to are given up before its
variable. -/
def forLoop (env : Environment) (self : Evaluator) (frame : Frame) (name : String)
    (namePosition : Position) (iterated body : Term) (tick : Run Unit) : Run Unit := do
  checkScope env frame namePosition
  let before ← mark
  gathering inOrder do
    self frame iterated
    match iteration? before (← operand before) with
    | none => fail .notIterable iterated.start
    | some (count, next) =>
        enclosed do
          let index := (← get).scope.size
          push .unit
          modify fun machine => machine.declare name false
          spendingAfter before (overItems self frame body index next tick count 0)
  keepTop before

def pushCaught (failure : Failure) : Run Unit := do
  match failure.problem with
  | .thrown => modify fun machine => machine.copyThrown
  | _ => modify fun machine => machine.pushLiteral failure.description

def thrownAgain (failure : Failure) (position? : Option Position) : Failure :=
  match failure.calls.reverse, position? with
  | (name, _) :: rest, some position =>
      ⟨failure.problem, failure.position?, ((name, position) :: rest).reverse⟩
  | [], _ => ⟨failure.problem, position?, []⟩
  | _, none => failure

/-- Ends a handler. `kept` is the number of values thrown before the failure that it handles; that
failure goes on where the handler throws nothing. -/
def endHandler (failure : Failure) (kept : Nat) (handler : Run Unit) : Run Unit :=
  fun machine =>
    let finish (machine : Machine) : Machine :=
      if failure.problem = .thrown then machine.dropThrownAt kept else machine
    match handler machine with
    | .error (.raised other) machine =>
        let again := other.problem = .thrown && other.calls.isEmpty &&
          match machine.thrown.back? with
          | some (.datum .unit) => true
          | _ => false
        if again then
          .error (.raised (thrownAgain failure other.position?)) machine.dropThrown
        else
          .error (.raised other) (finish machine)
    | .error halt machine => .error halt (finish machine)
    | .ok _ machine => .ok () (finish machine)

/-- Runs a body and gives the failure that can be handled, if there is one. -/
def caught (body : Run Unit) : Run (Option Failure) := fun machine =>
  match body machine with
  | .ok _ machine => .ok none machine
  | .error (.raised failure) machine =>
      if failure.problem.isLimit then .error (.raised failure) machine
      else .ok (some failure) machine
  | .error halt machine => .error halt machine

def attempt (env : Environment) (self : Evaluator) (frame : Frame) (body : Term)
    (caught? : Option (String × Position)) (handler : Term) : Run Unit := do
  let before ← mark
  let kept := (← get).thrown.size
  match ← caught (enclosed (self frame body)) with
  | none => return ()
  | some failure =>
      endHandler failure kept (enclosed do
        match caught? with
        | some (name, position) =>
            checkScope env frame position
            pushCaught failure
            modify fun machine => machine.declare name false
        | none => pure ()
        self frame handler)
  modify fun machine => machine.dropTo before
  push .unit

/-- Evaluates a term, given how its parts are evaluated. `fuel` bounds the turns of a loop. -/
def term (env : Environment) (self : Evaluator) (fuel : Nat) (frame : Frame) (term : Term) :
    Run Unit := do
  tick env term.position
  match term with
  | .literal value _ => modify fun machine => machine.pushLiteral value
  | .lookup name position => lookup env frame name position
  | .constant _ index _ => modify fun machine => machine.copy (.ofVariable index)
  | .receiver position =>
      let place ← receiver frame position
      modify fun machine => machine.copy place
  | .list values _ =>
      let before ← mark
      gathering inOrder (items env self frame ⟨1, 0, 0⟩ values ⟨0, 0, 0⟩)
      modify fun machine => machine.makeList before
  | .table entries _ =>
      let before ← mark
      let names := entries.map Prod.fst
      gathering (byName names)
        (items env self frame ⟨0, 1, 0⟩ (entries.map Prod.snd) ⟨0, 0, 0⟩)
      modify fun machine => machine.makeTable names before
  | .interpolation parts _ => pieces env self frame parts ""
  | .call name arguments position => call env self frame name arguments position
  | .moduleCall space name arguments start position =>
      moduleCall env self frame space name arguments start position
  | .moduleLookup space name start =>
      if env.functions.hasSpace space then fail (.variableNotFound (space ++ "::" ++ name)) start
      else fail (.moduleNotFound space) start
  | .negation operand position =>
      gathering inOrder do
        self frame operand
        unary env "-" position
  | .complement operand position =>
      gathering inOrder do
        self frame operand
        unary env "!" position
  | .binary operation left right position =>
      let before ← mark
      gathering backwards do
        self frame left
        self frame right
        binary env operation before (before + 1) position
      keepTop before
  | .conjunction left right _ =>
      self frame left
      if ← takeBoolean left.position then
        self frame right
        push (.boolean (← takeBoolean right.position))
      else
        push (.boolean false)
  | .disjunction left right _ =>
      self frame left
      if ← takeBoolean left.position then
        push (.boolean true)
      else
        self frame right
        push (.boolean (← takeBoolean right.position))
  | .chain root links _ => chain env self frame none root links
  | .conditional condition consequence alternative _ =>
      self frame condition
      if ← takeBoolean condition.position then
        self frame consequence
      else
        self frame alternative
  | .closure name bound _ => closure self frame name bound
  | .block statements _ => enclosed (block self frame statements)
  | .declaration name constant again value position =>
      declaration env self frame name constant again value position
  | .assignment operation? target value position =>
      assignment env self frame operation? target value position
  | .whileLoop condition body position =>
      whileLoop self frame condition body fuel (tick env position) position
  | .forLoop name namePosition iterated body position =>
      forLoop env self frame name namePosition iterated body (tick env position)
  | .breaking value _ =>
      self frame value
      throw .breaking
  | .continuing _ => throw .continuing
  | .returning value _ =>
      self frame value
      throw .returning
  | .throwing value position =>
      self frame value
      modify Machine.throwTop
      fail .thrown position
  | .attempt body caught? handler _ => attempt env self frame body caught? handler

/-- Evaluates a term within a number of steps from term to part. -/
def evaluate (env : Environment) : Nat → Evaluator
  | 0, _, term => fail .tooManyOperations term.position
  | fuel + 1, frame, term => Run.term env (evaluate env fuel) fuel frame term

def stepBound (limits : Limits) : Nat :=
  if limits.operations = 0 then Nat.pow 2 62 else limits.operations + 1

end ScriptHost.Script.Run
