import ScriptHost.Session

/-!
Scripts in a session: running them, evaluating expressions and calling script functions.

Each operation leaves no operand and no thrown value on the machine, and all but two end with a
collection: what a failing script has thrown outlives the collection of its run, and setting a
variable does not collect.
-/

namespace ScriptHost.Session

open Script

inductive SourceFile where
  | content (bytes : ByteArray)
  | unreadable (reason : String)

namespace SourceFile

def missing : SourceFile := unreadable "No such file or directory (os error 2)"

def directory : SourceFile := unreadable "Is a directory (os error 21)"

def text : SourceFile → Except Fault String
  | content bytes =>
      match String.fromUTF8? bytes with
      | some text => .ok text
      | none => .error (.io "stream did not contain valid UTF-8")
  | unreadable reason => .error (.io reason)

end SourceFile

def lineText (position : Position) : String :=
  "line " ++ position.line.repr

def constant? (machine : Machine) (name : String) : Option Constant :=
  (machine.findConstant? name).map fun index =>
    ⟨machine.valueAt (.ofVariable index), some index⟩

def surroundings (session : Session) : Surroundings :=
  ⟨session.configuration.limits, session.configuration.strict,
    (session.machine.scope.map Variable.name).toList, constant? session.machine,
    session.functions.spaces⟩

/-- Reads a script or an expression. Its closures are kept, since a variable may hold one of them
as long as the session lasts. -/
def readWith (read : Surroundings → String → Except SyntaxFault Program) (text : String) :
    Action Program := do
  match read (← get).surroundings text with
  | .ok script =>
      let closures := script.functions.filter Function.isClosure
      modify fun session => { session with closures := session.closures.merge closures }
      return script
  | .error fault => throw (.parse fault.message (some (lineText fault.position)))

def environment (session : Session) (library : Library) : Environment :=
  ⟨session.types, session.functions, library, session.closures, session.configuration.limits⟩

/-- Runs something with a new count of operations. Its value, if it has one, is the last operand
afterwards. -/
def outcome (work : Run Unit) (machine : Machine) : Except Fault Unit × Machine :=
  match work { machine with operations := 0 } with
  | .error (.raised failure) machine =>
      (.error (failure.toFault machine.thrown.back?), machine)
  | .error _ machine => (.ok (), machine)
  | .ok _ machine => (.ok (), machine)

def execute (library : Library) (work : Run.Evaluator → Run Unit) :
    Action (Except Fault Unit) := do
  let env := (← get).environment library
  onMachine (outcome (work (Run.evaluate env (Run.stepBound env.limits))))

/-- Hands the last operand to the host, unless there is a fault, and clears the machine. -/
def deliver (outcome : Except Fault Unit) : Action HostValue := do
  let result ← match outcome with
    | .ok _ => onMachine Machine.handOver
    | .error fault => pure (.error fault)
  changeMachine fun machine => ((machine.dropTo 0).dropAllThrown).collect
  ofResult result

/-- Runs a script to its end. What it has thrown is still on the machine. -/
def runToEnd (text : String) : Action (Except Fault Unit) := do
  let script ← readWith Program.read text
  modify fun session =>
    { session with library := session.library.merge script.functions }
  let outcome ← execute (← get).library fun self =>
    Run.block self .outermost script.body
  changeMachine fun machine => (machine.dropTo 0).collect
  return outcome

/-- Runs a script. Its variables stay, and its functions replace those of the same name and number
of parameters, also if it fails. -/
def run (text : String) : Action Unit :=
  whenReady do
    let outcome ← runToEnd text
    changeMachine Machine.dropAllThrown
    ofResult outcome

def runFile (file : SourceFile) : Action Unit :=
  whenReady do
    run (← ofResult file.text)

/-- Evaluates an expression. The functions in it are forgotten again. -/
def eval (text : String) : Action HostValue :=
  whenReady do
    let script ← readWith Program.readExpression text
    deliver (← execute ((← get).library.merge script.functions) fun self =>
      Run.block self .outermost script.body)

def global (name : String) : Action HostValue :=
  whenReady do
    match (← get).machine.findVariable? 0 name with
    | some index =>
        changeMachine fun machine => machine.copy (.ofVariable index)
        deliver (.ok ())
    | none => deliver (.error (.scriptRuntime ("Variable not found: " ++ name) none))

def bind (name : String) : Action Unit := do
  let machine := (← get).machine
  match machine.findVariable? 0 name with
  | none => changeMachine fun machine => machine.declare name false
  | some index =>
      if machine.isConstant (.ofVariable index) then
        changeMachine fun machine => machine.dropTo 0
        throw (.invalidState ("'" ++ name ++ "' is a constant"))
      changeMachine fun machine => machine.redeclare index false

def setGlobal (name : String) (value : HostValue) : Action Unit :=
  whenReady do
    if !Name.isIdentifier name || !Name.isFreeForHost name then
      throw (.invalidState ("'" ++ name ++ "' is not a valid variable name"))
    ofResult (← onMachine (Machine.receive value))
    bind name

/-- Pushes arguments from the host. If one is refused, those before it are given up. -/
def receiveAll : List HostValue → Machine → Except Fault Unit × Machine
  | [], machine => (.ok (), machine)
  | value :: values, machine =>
      match machine.receive value with
      | (.ok _, machine) => receiveAll values machine
      | (.error fault, machine) => (.error fault, discardArguments machine)
where
  discardArguments (machine : Machine) : Machine :=
    (machine.spendAll (List.range machine.operands.size)).dropTo 0

def resolve (library : Library) (name : String) (count : Nat) : Except Fault Function :=
  match library.find? name count with
  | some function => .ok function
  | none =>
      if library.defines name then
        .error (.arityMismatch name (choiceText (library.parameterCounts name)) count)
      else
        .error (.undefinedFunction name)

def call (name : String) (arguments : List HostValue) : Action HostValue :=
  whenReady do
    ofResult (← onMachine (receiveAll arguments))
    let library := (← get).library
    match resolve library name arguments.length with
    | .ok function =>
        deliver (← execute library fun self =>
          Run.callFromHost self function (List.range arguments.length))
    | .error fault =>
        changeMachine receiveAll.discardArguments
        throw fault

def hasFunction (session : Session) (name : String) : Bool :=
  session.library.defines name

end ScriptHost.Session
