import ScriptHost.Native.Registry
import ScriptHost.Script.Marshal

/-!
Calls of native callables, from scripts and from the host.

Every call runs between two collections. The instances that it allocates and that nothing claims
when it ends are removed again, whether the call succeeds or fails. Arguments are checked before
a routine starts: the instances that a script passes are live, and what the host passes is of the
right kind.
-/

namespace ScriptHost

open Script

structure Store where
  heap : Heap Occupant
  generator : Random.Generator

/-- A call under way: the store and the instances allocated so far, oldest first. -/
structure CallState where
  store : Store
  fresh : Array Handle

abbrev Call (α : Type) := EStateM Fault CallState α

namespace Call

variable {α : Type}

def ofResult : Except Fault α → Call α
  | .ok value => pure value
  | .error fault => throw fault

def heap : Call (Heap Occupant) := do
  return (← get).store.heap

def withHeap (change : Heap Occupant → Except Fault (Heap Occupant)) : Call Unit := fun state =>
  let ⟨⟨heap, generator⟩, fresh⟩ := state
  match change heap with
  | .ok heap => .ok () ⟨⟨heap, generator⟩, fresh⟩
  | .error fault => .error fault ⟨⟨heap, generator⟩, fresh⟩

def occupant (handle : Handle) : Call Occupant := do
  let resident ← ofResult ((← heap).get handle)
  return resident.content

/-- A new instance, which goes away with the call unless somebody claims it. -/
def insert (occupant : Occupant) : Call Handle := fun state =>
  let ⟨⟨heap, generator⟩, fresh⟩ := state
  let (handle, heap) := heap.insert occupant false
  .ok handle ⟨⟨heap, generator⟩, fresh.push handle⟩

def pin (handle : Handle) : Call Unit :=
  withHeap fun heap => heap.pin handle

def allocate (types : TypeRegistry) (type : HostType) (content : type.Content) :
    Except Fault Occupant :=
  match types.idOf? type with
  | some typeId => .ok ⟨typeId, ⟨type, content⟩⟩
  | none => .error (.invalidState (type.name ++ " is not a registered type"))

def read (types : TypeRegistry) (type : HostType) (handle : Handle) (heap : Heap Occupant) :
    Except Fault type.Content := do
  let resident ← heap.get handle
  let actual := resident.content.typeId
  if types.idOf? type = some actual then
    match resident.content.body.as? type with
    | some content => .ok content
    | none => .error (.typeMismatch .object "object of another type")
  else
    .error (.typeMismatch .object (types.nameOf actual))

def recognise (types : TypeRegistry) (type : HostType) (heap : Heap Occupant) :
    HostValue → Bool
  | .object handle =>
      match types.idOf? type, heap.resident? handle with
      | some expected, some resident => expected == resident.content.typeId
      | _, _ => false
  | _ => false

def nameType (types : TypeRegistry) (heap : Heap Occupant) (value : HostValue) :
    Except Fault String := do
  let handle ← value.asObject
  let resident ← heap.get handle
  return types.nameOf resident.content.typeId

def draw (sampler : Sampler) (state : CallState) : Except Fault Float × CallState :=
  match sampler.sample state.store.generator with
  | .ok (number, generator) => (.ok number, ⟨⟨state.store.heap, generator⟩, state.fresh⟩)
  | .error fault => (.error fault, state)

def perform (types : TypeRegistry) : Routine α → Call α
  | .done result => pure result
  | .fail fault => throw fault
  | .allocate type content next => fun state =>
      match allocate types type content with
      | .ok occupant =>
          let ⟨⟨heap, generator⟩, fresh⟩ := state
          let (handle, heap) := heap.insert occupant false
          perform types (next (.ok (.object handle)))
            ⟨⟨heap, generator⟩, fresh.push handle⟩
      | .error fault => perform types (next (.error fault)) state
  | .read type value next => fun state =>
      let answer := do read types type (← value.asObject) state.store.heap
      perform types (next answer) state
  | .recognise type value next => fun state =>
      perform types (next (recognise types type state.store.heap value)) state
  | .nameType value next => fun state =>
      perform types (next (nameType types state.store.heap value)) state
  | .countLive next => fun state =>
      perform types (next state.store.heap.live) state
  | .draw sampler next => fun state =>
      let (answer, state) := draw sampler state
      perform types (next answer) state

def describe (types : TypeRegistry) (handle : Handle) : Call (TypeDescriptor × Occupant) := do
  let occupant ← occupant handle
  let descriptor ← ofResult (types.get occupant.typeId)
  return (descriptor, occupant)

def construct (types : TypeRegistry) (typeId : TypeId) (arguments : List HostValue) :
    Call Handle := do
  let descriptor ← ofResult (types.get typeId)
  let content ← perform types (descriptor.construct arguments)
  insert ⟨typeId, ⟨descriptor.type, content⟩⟩

def callMethod (types : TypeRegistry) (receiver : Handle) (name : String)
    (arguments : List HostValue) : Call HostValue := do
  let (descriptor, _) ← describe types receiver
  let method ← ofResult (descriptor.method name)
  ofResult (checkArguments (descriptor.name ++ "." ++ name) method.parameters arguments)
  let content ← ofResult (read types descriptor.type receiver (← heap))
  perform types (method.call content arguments)

def getField (types : TypeRegistry) (receiver : Handle) (name : String) : Call HostValue := do
  let (descriptor, occupant) ← describe types receiver
  let field ← ofResult (descriptor.field name)
  let content ← ofResult (descriptor.contentOf occupant.body)
  return field.read content

/-- The value must be of the field's kind. What the field writes stays written even if writing
ends in a fault. -/
def setField (types : TypeRegistry) (receiver : Handle) (name : String) (value : HostValue) :
    Call Unit := do
  let (descriptor, occupant) ← describe types receiver
  let field ← ofResult (descriptor.field name)
  match field.write? with
  | none => throw (.unknownField descriptor.name (name ++ " (read-only)"))
  | some write =>
      ofResult (value.expectKind field.kind)
      let content ← ofResult (descriptor.contentOf occupant.body)
      let (content, outcome) := write content value
      withHeap fun heap =>
        .ok (heap.replace receiver ⟨occupant.typeId, ⟨descriptor.type, content⟩⟩)
      ofResult outcome

def operand (heap : Heap Occupant) : HostValue → Except Fault Operand
  | .object handle => do
      let resident ← heap.get handle
      return Operand.object resident.content.typeId
  | other => .ok (Operand.value other.kind)

def operandName (types : TypeRegistry) (heap : Heap Occupant) (value : HostValue) : String :=
  match value with
  | .object _ =>
      match nameType types heap value with
      | .ok name => name
      | .error _ => Kind.object.name
  | other => other.kind.name

/-- The first type that has an entry for the operands, or else the first type. -/
def findOperator (types : TypeRegistry) (operator : Operator) (left : Operand)
    (right? : Option Operand) :
    List TypeId → Except Fault (Option TypeDescriptor × Option OperatorEntry)
  | [] => .ok (none, none)
  | typeId :: rest => do
      let descriptor ← types.get typeId
      match descriptor.operator? operator typeId left right? with
      | some entry => return (some descriptor, some entry)
      | none =>
          let (_, entry?) ← findOperator types operator left right? rest
          return (some descriptor, entry?)

/-- Applies an operator through the table of the left instance's type, then of the right one's.
A unary operator has no right operand. -/
def applyOperator (types : TypeRegistry) (operator : Operator) (left : HostValue)
    (right? : Option HostValue) : Call HostValue := do
  let heap ← heap
  let leftOperand ← ofResult (operand heap left)
  let rightOperand? ← ofResult (right?.mapM (operand heap))
  let owners := leftOperand.typeId?.toList ++ (rightOperand?.bind Operand.typeId?).toList
  match ← ofResult (findOperator types operator leftOperand rightOperand? owners) with
  | (_, some entry) => perform types (entry.apply left (right?.getD .null))
  | (owner?, none) =>
      let owner := match owner? with
        | some descriptor => descriptor.name
        | none => Value.objectTypeName
      let operands := (left :: right?.toList).map (operandName types heap)
      throw (.unsupportedOperator owner operator.symbol (", ".intercalate operands))

/-- The host forms of arguments, each checked against the kind declared at its place. Arguments
beyond the declared ones are taken whatever they are. -/
def marshal (heap : Heap Occupant) : List Kind → List Value → Except Fault (List HostValue)
  | _, [] => .ok []
  | [], value :: values => do
      let host ← value.toHost heap .any
      return host :: (← marshal heap [] values)
  | kind :: kinds, value :: values => do
      let host ← value.toHost heap kind
      return host :: (← marshal heap kinds values)

def scriptConstruct (types : TypeRegistry) (typeId : TypeId) (arguments : List Value) :
    Call HostValue := do
  let arguments ← ofResult (marshal (← heap) [] arguments)
  return .object (← construct types typeId arguments)

def scriptMethod (types : TypeRegistry) (receiver : Handle) (name : String)
    (arguments : List Value) : Call HostValue := do
  let (descriptor, _) ← describe types receiver
  let method ← ofResult (descriptor.method name)
  let arguments ← ofResult (marshal (← heap) method.parameters arguments)
  callMethod types receiver name arguments

def scriptSetField (types : TypeRegistry) (receiver : Handle) (name : String) (value : Value) :
    Call HostValue := do
  let (descriptor, _) ← describe types receiver
  let field ← ofResult (descriptor.field name)
  let value ← ofResult (value.toHost (← heap) field.kind)
  setField types receiver name value
  return .null

def scriptBinary (types : TypeRegistry) (operator : Operator) (left right : Value) :
    Call HostValue := do
  let left ← ofResult (left.toHost (← heap) .any)
  let right ← ofResult (right.toHost (← heap) .any)
  applyOperator types operator left (some right)

/-- The number of arguments comes first where it is fixed, then their kinds. -/
def scriptFunction (types : TypeRegistry) (function : FunctionDescriptor)
    (arguments : List Value) : Call HostValue := do
  let heap ← heap
  let arguments ← match function.parameters with
    | .fixed kinds =>
        if arguments.length = kinds.length then
          ofResult (marshal heap kinds arguments)
        else
          throw (.arityMismatch function.name function.parameters.text arguments.length)
    | .variadic => ofResult (marshal heap [] arguments)
  perform types (function.body arguments)

inductive Request where
  | construct (typeId : TypeId) (arguments : List Value)
  | method (receiver : Reference) (name : String) (arguments : List Value)
  | read (owner : Reference) (field : String)
  | write (owner : Reference) (field : String) (value : Value)
  | operator (symbol : Operator) (left right : Value)
  | negation (operand : Reference)
  | function (descriptor : FunctionDescriptor) (arguments : List Value)

namespace Request

def values : Request → List Value
  | construct _ arguments | function _ arguments => arguments
  | method receiver _ arguments => .object receiver :: arguments
  | read owner _ => [.object owner]
  | write owner _ value => [.object owner, value]
  | operator _ left right => [left, right]
  | negation operand => [.object operand]

def call (types : TypeRegistry) : Request → Call HostValue
  | construct typeId arguments => scriptConstruct types typeId arguments
  | method receiver name arguments => scriptMethod types receiver.handle name arguments
  | read owner field => getField types owner.handle field
  | write owner field value => scriptSetField types owner.handle field value
  | operator symbol left right => scriptBinary types symbol left right
  | negation operand => applyOperator types .negate (.object operand.handle) none
  | function descriptor arguments => scriptFunction types descriptor arguments

end Request

/-- The result of a call as a script value. The reference is counted before the call ends, so an
instance that is returned stays. -/
def toScript (value : HostValue) : Call Value := fun state =>
  let ⟨⟨heap, generator⟩, fresh⟩ := state
  match value.toScript heap with
  | .ok (value, heap) => .ok value ⟨⟨heap, generator⟩, fresh⟩
  | .error fault => .error fault ⟨⟨heap, generator⟩, fresh⟩

def pinResult (value : HostValue) : Call HostValue := do
  match value with
  | .object handle => pin handle
  | _ => pure ()
  return value

end Call

namespace Store

def mapHeap (store : Store) (change : Heap Occupant → Heap Occupant) : Store :=
  let ⟨heap, generator⟩ := store
  ⟨change heap, generator⟩

def collect (store : Store) : Store :=
  store.mapHeap fun heap => heap.collect.2

/-- Removes what a call has allocated and nobody claims, and collects. -/
def conclude (state : CallState) : Store :=
  state.store.mapHeap fun heap => (heap.sweep state.fresh.toList 0).2.collect.2

def run {α : Type} (call : Call α) (store : Store) : Except Fault α × Store :=
  match call ⟨store.collect, #[]⟩ with
  | .ok value state => (.ok value, conclude state)
  | .error fault state => (.error fault, conclude state)

end Store
end ScriptHost
