import ScriptHost.Session

/-!
Instances in the hands of the host.

Whatever handle a session gives to its host is pinned, so the instance stays until the host
releases it.
-/

namespace ScriptHost.Session

variable {α : Type}

def native (call : TypeRegistry → Call α) : Action α :=
  whenReady do
    let types := (← get).types
    ofResult (← onMachine fun machine =>
      let ⟨store, output, scope, operands, cells, thrown, operations, history, asked⟩ := machine
      let (result, store) := store.run (call types)
      (result, ⟨store, output, scope, operands, cells, thrown, operations, history, asked⟩))

def inspect (look : Session → Heap Occupant → Except Fault α) : Action α :=
  whenReady do
    let session ← get
    ofResult (look session session.machine.store.heap)

def createObject (typeName : String) (arguments : List HostValue) : Action Handle :=
  whenReady do
    match (← get).types.idOfName? typeName with
    | none => throw (.undefinedFunction typeName)
    | some typeId =>
        native fun types => do
          let handle ← Call.construct types typeId arguments
          Call.pin handle
          return handle

def insertObject (type : HostType) (content : type.Content) : Action Handle :=
  native fun types => do
    let occupant ← Call.ofResult (Call.allocate types type content)
    let handle ← Call.insert occupant
    Call.pin handle
    return handle

def readObject (handle : Handle) (type : HostType) : Action type.Content :=
  inspect fun _ heap => do
    let resident ← heap.get handle
    match resident.content.body.as? type with
    | some content => return content
    | none => .error (.typeMismatch .object "object of another type")

def callMethod (receiver : Handle) (name : String) (arguments : List HostValue) :
    Action HostValue :=
  native fun types => do
    Call.pinResult (← Call.callMethod types receiver name arguments)

def getField (receiver : Handle) (name : String) : Action HostValue :=
  native fun types => do
    Call.pinResult (← Call.getField types receiver name)

def setField (receiver : Handle) (name : String) (value : HostValue) : Action Unit :=
  native fun types => Call.setField types receiver name value

def typeName (handle : Handle) : Action String :=
  inspect fun session heap => do
    let resident ← heap.get handle
    return session.types.nameOf resident.content.typeId

def isLive (session : Session) (handle : Handle) : Bool :=
  session.machine.store.heap.contains handle

def release (handle : Handle) : Action Unit :=
  whenReady do
    ofResult (← onMachine fun machine =>
      match machine.store.heap.unpin handle with
      | .ok heap => (.ok (), machine.mapHeap fun _ => heap)
      | .error fault => (.error fault, machine))

/-- Removes the instances that nobody refers to any more, and counts them. -/
def collect : Action Nat :=
  whenReady (onMachine fun machine =>
    let (freed, heap) := machine.store.heap.collect
    (freed, machine.mapHeap fun _ => heap))

end ScriptHost.Session
