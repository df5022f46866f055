import ScriptHost.Script.Evaluator
import ScriptHost.Script.Program

/-!
Sessions: an interpreter together with the types, functions and variables it knows.

A session is started once and torn down once. In between it is ready, and almost all
operations are for ready sessions only: at any other time they fail and change nothing. An
operation gives its result or its fault together with the session as it is afterwards.
-/

namespace ScriptHost

open Script

inductive Phase where
  | uninitialized
  | ready
  | tornDown
deriving DecidableEq, Repr, Inhabited

/-- `library` has the functions defined by the scripts run so far, and `closures` those written
inside of expressions; their variables are on the machine. -/
structure Session where
  configuration : Configuration
  phase : Phase
  types : TypeRegistry
  functions : FunctionRegistry
  library : Library
  closures : Library
  machine : Machine

inductive Registration where
  | type (descriptor : TypeDescriptor)
  | function (descriptor : FunctionDescriptor)
  | moduleFunction (space : String) (descriptor : FunctionDescriptor)

abbrev Extension := List Registration

structure Statistics where
  liveObjects : Nat
  types : Nat
  functions : Nat
  scriptFunctions : Nat
deriving DecidableEq, Repr

namespace Session

structure Language where
  name : String
  version : String
  extensions : List String

def language : Language := ⟨"Rhai", "1.20", ["rhai"]⟩

abbrev Action (α : Type) := EStateM Fault Session α

variable {α : Type}

def create (configuration : Configuration) : Session :=
  ⟨configuration, .uninitialized, .empty, .empty, [], [],
    .initial (.ofSeed (configuration.seed?.getD 0))⟩

def ofResult : Except Fault α → Action α
  | .ok result => pure result
  | .error fault => throw fault

def whenReady (action : Action α) : Action α := fun session =>
  match session.phase with
  | .ready => action session
  | .uninitialized => .error .notInitialized session
  | .tornDown => .error .sessionClosed session

def start : Action Unit := fun session =>
  match session.phase with
  | .uninitialized => .ok () { session with phase := .ready }
  | .ready => .error (.invalidState "session is already initialized") session
  | .tornDown => .error .sessionClosed session

/-- Variables, script functions and instances go away; what has been printed stays. -/
def teardown : Action Unit := fun session =>
  match session.phase with
  | .tornDown => .error .sessionClosed session
  | _ =>
      .ok () { session with
        phase := .tornDown
        library := []
        closures := []
        machine := session.machine.shutDown }

def statistics (session : Session) : Statistics :=
  ⟨session.machine.store.heap.live, session.types.size, session.functions.size,
    session.library.length⟩

def onMachine (work : Machine → α × Machine) : Action α := fun session =>
  let ⟨configuration, phase, types, functions, library, closures, machine⟩ := session
  let (result, machine) := work machine
  .ok result ⟨configuration, phase, types, functions, library, closures, machine⟩

def changeMachine (change : Machine → Machine) : Action Unit :=
  onMachine fun machine => ((), change machine)

def takeOutput : Action (List String) :=
  onMachine fun machine => (machine.output.toList, { machine with output := #[] })

/-- Gives the number of the new type. -/
def registerType (descriptor : TypeDescriptor) : Action TypeId :=
  whenReady do
    let session ← get
    if session.functions.contains FunctionRegistry.globalSpace descriptor.name then
      throw (.duplicateType descriptor.name)
    let types ← ofResult (session.types.register descriptor)
    set { session with types := types }
    return session.types.size

def addFunction (space : String) (descriptor : FunctionDescriptor) : Action Unit := do
  let session ← get
  let functions ← ofResult (session.functions.register space descriptor)
  set { session with functions := functions }

def registerFunction (descriptor : FunctionDescriptor) : Action Unit :=
  whenReady do
    if (← get).types.containsName descriptor.name then
      throw (.duplicateFunction FunctionRegistry.globalSpace descriptor.name)
    addFunction FunctionRegistry.globalSpace descriptor

def registerModuleFunction (space : String) (descriptor : FunctionDescriptor) : Action Unit :=
  if space = FunctionRegistry.globalSpace then
    registerFunction descriptor
  else
    whenReady do
      if !Name.isIdentifier space then
        throw (.invalidState ("'" ++ space ++ "' is not a valid module name"))
      addFunction space descriptor

def register : Registration → Action Unit
  | .type descriptor => do
      let _ ← registerType descriptor
  | .function descriptor => registerFunction descriptor
  | .moduleFunction space descriptor => registerModuleFunction space descriptor

/-- Makes the registrations in order. The first one that fails is the last one tried. -/
def install (extension : Extension) : Action Unit :=
  whenReady (extension.forM register)

end Session
end ScriptHost
