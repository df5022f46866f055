import ScriptHost.Proofs.Native.Sides

/-!
Entries into native bodies.

A native call is a check followed by a body. The check looks at the heap and changes nothing: it
finds the body and refuses a call that does not suit it. So whatever a body meets when it starts
has been let in by the check. Where a call comes from a script, every handle that is let in is that
of a live instance. Where it comes from the host, this has been asked of the receiver and of the
operands of an operator, and of no other argument.
-/

set_option autoImplicit false

namespace ScriptHost

open Script

/-- A body of a native callable with all that it starts with. -/
inductive Call.Entry where
  | construct (typeId : TypeId) (descriptor : TypeDescriptor)
      (constructor : Constructor descriptor.type) (arguments : List HostValue)
  | method (receiver : Handle) (descriptor : TypeDescriptor) (method : Method descriptor.type)
      (content : descriptor.type.Content) (arguments : List HostValue)
  | read (owner : Handle) (descriptor : TypeDescriptor) (field : Field descriptor.type)
      (content : descriptor.type.Content)
  | write (owner : Handle) (typeId : TypeId) (descriptor : TypeDescriptor)
      (write : descriptor.type.Content → HostValue →
        descriptor.type.Content × Except Fault Unit)
      (content : descriptor.type.Content) (value : HostValue)
  | operator (entry : OperatorEntry) (left : HostValue) (right? : Option HostValue)
  | function (descriptor : FunctionDescriptor) (arguments : List HostValue)

namespace Call

variable {α β : Type} {types : TypeRegistry} {heap : Heap Occupant} {state : CallState}

namespace Entry

def receiver? : Entry → Option Handle
  | method receiver _ _ _ _ => some receiver
  | read owner _ _ _ | write owner _ _ _ _ _ => some owner
  | construct _ _ _ _ | operator _ _ _ | function _ _ => none

def arguments : Entry → List HostValue
  | construct _ _ _ arguments | method _ _ _ _ arguments | function _ arguments => arguments
  | read _ _ _ _ => []
  | write _ _ _ _ _ value => [value]
  | operator _ left right? => left :: right?.toList

def run (types : TypeRegistry) : Entry → Call HostValue
  | construct typeId descriptor constructor arguments => do
      let content ← perform types (constructor.build arguments)
      return .object (← insert ⟨typeId, ⟨descriptor.type, content⟩⟩)
  | method _ _ called content arguments => perform types (called.call content arguments)
  | read _ _ field content => return field.read content
  | write owner typeId descriptor change content value => do
      let (content, outcome) := change content value
      withHeap fun heap => .ok (heap.replace owner ⟨typeId, ⟨descriptor.type, content⟩⟩)
      ofResult outcome
      return .null
  | operator entry left right? => perform types (entry.apply left (right?.getD .null))
  | function descriptor arguments => perform types (descriptor.body arguments)

theorem leads_write {types : TypeRegistry} {inv : CallState → Prop} {state : CallState}
    {owner : Handle} {typeId : TypeId} {descriptor : TypeDescriptor}
    {change : descriptor.type.Content → HostValue → descriptor.type.Content × Except Fault Unit}
    {content : descriptor.type.Content} {value : HostValue}
    (stored : inv ⟨⟨state.store.heap.replace owner
      ⟨typeId, ⟨descriptor.type, (change content value).1⟩⟩, state.store.generator⟩, state.fresh⟩) :
    Leads inv (run types (.write owner typeId descriptor change content value))
      (fun _ _ => True) state := by
  have ended : run types (.write owner typeId descriptor change content value) state =
      (ofResult (change content value).2 >>= fun _ => pure HostValue.null)
        ⟨⟨state.store.heap.replace owner ⟨typeId, ⟨descriptor.type, (change content value).1⟩⟩,
          state.store.generator⟩, state.fresh⟩ := rfl
  unfold Leads
  rw [ended]
  cases (change content value).2 with
  | ok _ => exact ⟨stored, trivial⟩
  | error fault => exact stored

/-- Every instance that the body starts with is live. -/
structure Live (heap : Heap Occupant) (entry : Entry) : Prop where
  receiver : ∀ handle, entry.receiver? = some handle → heap.contains handle = true
  arguments : ∀ handle, .object handle ∈ entry.arguments → heap.contains handle = true

/-- A body that starts with these arguments. The instance that it is for, if it is for one, is
live. -/
structure Begins (heap : Heap Occupant) (owner? : Option Handle) (passed : List HostValue)
    (entry : Entry) : Prop where
  receiver : entry.receiver? = owner?
  arguments : entry.arguments = passed
  live : ∀ handle, owner? = some handle → heap.contains handle = true

theorem Begins.live_iff {owner? : Option Handle} {passed : List HostValue} {entry : Entry}
    (begins : entry.Begins heap owner? passed) :
    entry.Live heap ↔ ∀ handle, .object handle ∈ passed → heap.contains handle = true := by
  obtain ⟨rfl, rfl, live⟩ := begins
  exact ⟨Live.arguments, fun arguments => ⟨live, arguments⟩⟩

end Entry

def checkConstruct (types : TypeRegistry) (typeId : TypeId) (arguments : List HostValue) :
    Except Fault Entry := do
  let descriptor ← types.get typeId
  let constructor ← descriptor.selectConstructor arguments
  return .construct typeId descriptor constructor arguments

/-- The type of an instance and what the heap has of it. -/
def described (types : TypeRegistry) (heap : Heap Occupant) (handle : Handle) :
    Except Fault (TypeDescriptor × Occupant) := do
  let resident ← heap.get handle
  let descriptor ← types.get resident.content.typeId
  return (descriptor, resident.content)

def checkMethod (types : TypeRegistry) (heap : Heap Occupant) (receiver : Handle) (name : String)
    (arguments : List HostValue) : Except Fault Entry := do
  let (descriptor, _) ← described types heap receiver
  let method ← descriptor.method name
  checkArguments (descriptor.name ++ "." ++ name) method.parameters arguments
  let content ← Call.read types descriptor.type receiver heap
  return .method receiver descriptor method content arguments

def checkRead (types : TypeRegistry) (heap : Heap Occupant) (owner : Handle) (name : String) :
    Except Fault Entry := do
  let (descriptor, occupant) ← described types heap owner
  let field ← descriptor.field name
  let content ← descriptor.contentOf occupant.body
  return .read owner descriptor field content

def checkWrite (types : TypeRegistry) (heap : Heap Occupant) (owner : Handle) (name : String)
    (value : HostValue) : Except Fault Entry := do
  let (descriptor, occupant) ← described types heap owner
  let field ← descriptor.field name
  match field.write? with
  | none => .error (.unknownField descriptor.name (name ++ " (read-only)"))
  | some write => do
      value.expectKind field.kind
      let content ← descriptor.contentOf occupant.body
      return .write owner occupant.typeId descriptor write content value

def checkOperator (types : TypeRegistry) (heap : Heap Occupant) (operator : Operator)
    (left : HostValue) (right? : Option HostValue) : Except Fault Entry := do
  let leftOperand ← operand heap left
  let rightOperand? ← right?.mapM (operand heap)
  let owners := leftOperand.typeId?.toList ++ (rightOperand?.bind Operand.typeId?).toList
  match ← findOperator types operator leftOperand rightOperand? owners with
  | (_, some entry) => return .operator entry left right?
  | (owner?, none) =>
      let owner := match owner? with
        | some descriptor => descriptor.name
        | none => Value.objectTypeName
      let operands := (left :: right?.toList).map (operandName types heap)
      .error (.unsupportedOperator owner operator.symbol (", ".intercalate operands))

def checkScriptMethod (types : TypeRegistry) (heap : Heap Occupant) (receiver : Handle)
    (name : String) (arguments : List Value) : Except Fault Entry := do
  let (descriptor, _) ← described types heap receiver
  let method ← descriptor.method name
  checkMethod types heap receiver name (← marshal heap method.parameters arguments)

def checkScriptWrite (types : TypeRegistry) (heap : Heap Occupant) (owner : Handle) (name : String)
    (value : Value) : Except Fault Entry := do
  let (descriptor, _) ← described types heap owner
  let field ← descriptor.field name
  checkWrite types heap owner name (← value.toHost heap field.kind)

def checkScriptBinary (types : TypeRegistry) (heap : Heap Occupant) (operator : Operator)
    (left right : Value) : Except Fault Entry := do
  let left ← left.toHost heap .any
  checkOperator types heap operator left (some (← right.toHost heap .any))

def checkScriptFunction (heap : Heap Occupant) (function : FunctionDescriptor)
    (arguments : List Value) : Except Fault Entry := do
  match function.parameters with
  | .fixed kinds =>
      if arguments.length = kinds.length then
        return .function function (← marshal heap kinds arguments)
      else
        .error (.arityMismatch function.name function.parameters.text arguments.length)
  | .variadic => return .function function (← marshal heap [] arguments)

def Request.check (types : TypeRegistry) (heap : Heap Occupant) : Request → Except Fault Entry
  | construct typeId arguments => do
      checkConstruct types typeId (← marshal heap [] arguments)
  | method receiver name arguments => checkScriptMethod types heap receiver.handle name arguments
  | read owner field => checkRead types heap owner.handle field
  | write owner field value => checkScriptWrite types heap owner.handle field value
  | operator symbol left right => checkScriptBinary types heap symbol left right
  | negation operand => checkOperator types heap .negate (.object operand.handle) none
  | function descriptor arguments => checkScriptFunction heap descriptor arguments

theorem ofResult_bind (first : Except Fault α) (rest : α → Except Fault β) {γ : Type}
    (work : β → Call γ) :
    (ofResult (first >>= rest) >>= work) =
      (ofResult first >>= fun value => ofResult (rest value) >>= work) := by
  cases first with
  | ok value => rfl
  | error fault => rfl

theorem checked {result : Except Fault α} {first second : α → Call β}
    (same : ∀ value, first value state = second value state) :
    (ofResult result >>= first) state = (ofResult result >>= second) state := by
  cases result with
  | ok value => exact same value
  | error fault => rfl

theorem described_bind (handle : Handle) (work : TypeDescriptor × Occupant → Call α) :
    (describe types handle >>= work) state =
      (ofResult (described types state.store.heap handle) >>= work) state := by
  unfold describe occupant described
  simp only [bind_assoc, pure_bind, ofResult_bind]
  rfl

theorem construct_admitted (typeId : TypeId) (arguments : List HostValue) :
    (construct types typeId arguments >>= fun handle => pure (.object handle)) state =
      (ofResult (checkConstruct types typeId arguments) >>= Entry.run types) state := by
  unfold construct checkConstruct
  simp only [bind_assoc, ofResult_bind]
  apply checked
  intro descriptor
  unfold TypeDescriptor.construct
  cases descriptor.selectConstructor arguments with
  | error fault => rfl
  | ok constructor =>
      change _ = (perform types (constructor.build arguments) >>= _) state
      rfl

theorem callMethod_admitted (receiver : Handle) (name : String) (arguments : List HostValue) :
    callMethod types receiver name arguments state =
      (ofResult (checkMethod types state.store.heap receiver name arguments) >>= Entry.run types)
        state := by
  unfold callMethod checkMethod
  rw [described_bind]
  simp only [ofResult_bind]
  refine checked fun found => checked fun method => checked fun _ => ?_
  change (ofResult (Call.read types found.1.type receiver state.store.heap) >>= _) state = _
  exact checked fun content => rfl

theorem getField_admitted (owner : Handle) (name : String) :
    getField types owner name state =
      (ofResult (checkRead types state.store.heap owner name) >>= Entry.run types) state := by
  unfold getField checkRead
  rw [described_bind]
  simp only [ofResult_bind]
  exact checked fun found => checked fun field => checked fun content => rfl

theorem setField_admitted (owner : Handle) (name : String) (value : HostValue) :
    (setField types owner name value >>= fun _ => pure .null) state =
      (ofResult (checkWrite types state.store.heap owner name value) >>= Entry.run types)
        state := by
  unfold setField checkWrite
  rw [bind_assoc, described_bind]
  simp only [ofResult_bind, bind_assoc]
  refine checked fun found => checked fun field => ?_
  cases field.write? with
  | none => rfl
  | some change =>
      dsimp only
      simp only [ofResult_bind, bind_assoc]
      exact checked fun _ => checked fun content => rfl

theorem applyOperator_admitted (operator : Operator) (left : HostValue)
    (right? : Option HostValue) :
    applyOperator types operator left right? state =
      (ofResult (checkOperator types state.store.heap operator left right?) >>= Entry.run types)
        state := by
  unfold applyOperator checkOperator
  simp only [ofResult_bind]
  change (ofResult (operand state.store.heap left) >>= _) state = _
  refine checked fun leftOperand => checked fun rightOperand? => checked fun found => ?_
  obtain ⟨owner?, entry?⟩ := found
  cases entry? with
  | none => rfl
  | some entry => rfl

theorem scriptConstruct_admitted (typeId : TypeId) (arguments : List Value) :
    scriptConstruct types typeId arguments state =
      (ofResult (marshal state.store.heap [] arguments >>= checkConstruct types typeId) >>=
        Entry.run types) state := by
  rw [ofResult_bind]
  change (ofResult (marshal state.store.heap [] arguments) >>= _) state = _
  exact checked fun given => construct_admitted typeId given

theorem scriptMethod_admitted (receiver : Handle) (name : String) (arguments : List Value) :
    scriptMethod types receiver name arguments state =
      (ofResult (checkScriptMethod types state.store.heap receiver name arguments) >>=
        Entry.run types) state := by
  unfold scriptMethod checkScriptMethod
  rw [described_bind]
  simp only [ofResult_bind]
  refine checked fun found => checked fun method => ?_
  change (ofResult (marshal state.store.heap method.parameters arguments) >>= _) state = _
  exact checked fun given => callMethod_admitted receiver name given

theorem scriptSetField_admitted (owner : Handle) (name : String) (value : Value) :
    scriptSetField types owner name value state =
      (ofResult (checkScriptWrite types state.store.heap owner name value) >>=
        Entry.run types) state := by
  unfold scriptSetField checkScriptWrite
  rw [described_bind]
  simp only [ofResult_bind]
  refine checked fun found => checked fun field => ?_
  change (ofResult (value.toHost state.store.heap field.kind) >>= _) state = _
  exact checked fun given => setField_admitted owner name given

theorem scriptBinary_admitted (operator : Operator) (left right : Value) :
    scriptBinary types operator left right state =
      (ofResult (checkScriptBinary types state.store.heap operator left right) >>=
        Entry.run types) state := by
  unfold scriptBinary checkScriptBinary
  simp only [ofResult_bind]
  change (ofResult (left.toHost state.store.heap .any) >>= _) state = _
  refine checked fun left => ?_
  change (ofResult (right.toHost state.store.heap .any) >>= _) state = _
  exact checked fun right => applyOperator_admitted operator left (some right)

theorem scriptFunction_admitted (function : FunctionDescriptor) (arguments : List Value) :
    scriptFunction types function arguments state =
      (ofResult (checkScriptFunction state.store.heap function arguments) >>=
        Entry.run types) state := by
  unfold scriptFunction checkScriptFunction
  cases function.parameters with
  | fixed kinds =>
      dsimp only
      split
      · rw [ofResult_bind]
        change (ofResult (marshal state.store.heap kinds arguments) >>= _) state = _
        exact checked fun given => rfl
      · rfl
  | variadic =>
      dsimp only
      rw [ofResult_bind]
      change (ofResult (marshal state.store.heap [] arguments) >>= _) state = _
      exact checked fun given => rfl

/-- A request of a script is refused by its check with nothing changed, or else it is the body. -/
theorem Request.call_admitted (request : Request) :
    request.call types state =
      (ofResult (request.check types state.store.heap) >>= Entry.run types) state := by
  cases request with
  | construct typeId arguments => exact scriptConstruct_admitted typeId arguments
  | method receiver name arguments => exact scriptMethod_admitted receiver.handle name arguments
  | read owner field => exact getField_admitted owner.handle field
  | write owner field value => exact scriptSetField_admitted owner.handle field value
  | operator symbol left right => exact scriptBinary_admitted symbol left right
  | negation operand => exact applyOperator_admitted .negate _ none
  | function descriptor arguments => exact scriptFunction_admitted descriptor arguments

theorem of_bind_ok {first : Except Fault α} {rest : α → Except Fault β} {result : β}
    (ended : first >>= rest = .ok result) :
    ∃ value, first = .ok value ∧ rest value = .ok result := by
  cases first with
  | ok value => exact ⟨value, rfl, ended⟩
  | error fault => cases ended

theorem of_bind_error {first : Except Fault α} {rest : α → Except Fault β} {fault : Fault}
    (refused : first >>= rest = .error fault) :
    first = .error fault ∨ ∃ value, first = .ok value ∧ rest value = .error fault := by
  cases first with
  | ok value => exact .inr ⟨value, rfl, refused⟩
  | error other =>
      cases refused
      exact .inl rfl

theorem of_map_error {first : Except Fault α} {change : α → β} {fault : Fault}
    (refused : (first >>= fun value => pure (change value)) = .error fault) :
    first = .error fault := by
  rcases of_bind_error refused with same | ⟨_, _, ended⟩
  · exact same
  · cases ended

theorem contains_of_get {handle : Handle} {resident : Resident Occupant}
    (found : heap.get handle = .ok resident) : heap.contains handle = true :=
  Heap.contains_iff.mpr ⟨resident, Heap.get_eq_ok_iff.mp found⟩

theorem live_of_described {owner : Handle} {found : TypeDescriptor × Occupant}
    (known : described types heap owner = .ok found) :
    ∀ handle, some owner = some handle → heap.contains handle = true := by
  rintro handle ⟨⟩
  obtain ⟨resident, got, _⟩ := of_bind_ok known
  exact contains_of_get got

theorem live_of_marshal {kinds : List Kind} {values : List Value} {arguments : List HostValue}
    (marshalled : marshal heap kinds values = .ok arguments) {handle : Handle}
    (member : .object handle ∈ arguments) : heap.contains handle = true := by
  induction values generalizing kinds arguments with
  | nil =>
      have none : arguments = [] := by
        cases kinds <;> exact (Except.ok.inj marshalled).symm
      rw [none] at member
      cases member
  | cons value values ih =>
      have parts : ∃ kind rest host others, value.toHost heap kind = .ok host ∧
          marshal heap rest values = .ok others ∧ arguments = host :: others := by
        cases kinds with
        | nil =>
            obtain ⟨host, first, later⟩ := of_bind_ok marshalled
            obtain ⟨others, rest, same⟩ := of_bind_ok later
            exact ⟨_, _, host, others, first, rest, (Except.ok.inj same).symm⟩
        | cons kind kinds =>
            obtain ⟨host, first, later⟩ := of_bind_ok marshalled
            obtain ⟨others, rest, same⟩ := of_bind_ok later
            exact ⟨_, _, host, others, first, rest, (Except.ok.inj same).symm⟩
      obtain ⟨kind, rest, host, others, crossed, marshalledRest, rfl⟩ := parts
      rcases List.mem_cons.mp member with same | later
      · rw [← same] at crossed
        exact live_of_toHost crossed
      · exact ih marshalledRest later

theorem live_of_operand {value : HostValue} {found : Operand}
    (known : operand heap value = .ok found) {handle : Handle} (same : .object handle = value) :
    heap.contains handle = true := by
  rw [← same] at known
  obtain ⟨resident, got, _⟩ := of_bind_ok known
  exact contains_of_get got

theorem admitted_construct {typeId : TypeId} {arguments : List HostValue} {entry : Entry}
    (admitted : checkConstruct types typeId arguments = .ok entry) :
    entry.Begins heap none arguments := by
  obtain ⟨descriptor, _, admitted⟩ := of_bind_ok admitted
  obtain ⟨constructor, _, admitted⟩ := of_bind_ok admitted
  cases admitted
  exact ⟨rfl, rfl, nofun⟩

theorem admitted_method {receiver : Handle} {name : String} {arguments : List HostValue}
    {entry : Entry} (admitted : checkMethod types heap receiver name arguments = .ok entry) :
    entry.Begins heap receiver arguments := by
  obtain ⟨found, known, admitted⟩ := of_bind_ok admitted
  obtain ⟨method, _, admitted⟩ := of_bind_ok admitted
  obtain ⟨_, _, admitted⟩ := of_bind_ok admitted
  obtain ⟨content, _, admitted⟩ := of_bind_ok admitted
  cases admitted
  exact ⟨rfl, rfl, live_of_described known⟩

theorem admitted_read {owner : Handle} {name : String} {entry : Entry}
    (admitted : checkRead types heap owner name = .ok entry) :
    entry.Begins heap owner [] := by
  obtain ⟨found, known, admitted⟩ := of_bind_ok admitted
  obtain ⟨field, _, admitted⟩ := of_bind_ok admitted
  obtain ⟨content, _, admitted⟩ := of_bind_ok admitted
  cases admitted
  exact ⟨rfl, rfl, live_of_described known⟩

theorem admitted_write {owner : Handle} {name : String} {value : HostValue} {entry : Entry}
    (admitted : checkWrite types heap owner name value = .ok entry) :
    entry.Begins heap owner [value] := by
  obtain ⟨found, known, admitted⟩ := of_bind_ok admitted
  obtain ⟨field, _, admitted⟩ := of_bind_ok admitted
  split at admitted
  · cases admitted
  · obtain ⟨_, _, admitted⟩ := of_bind_ok admitted
    obtain ⟨content, _, admitted⟩ := of_bind_ok admitted
    cases admitted
    exact ⟨rfl, rfl, live_of_described known⟩

theorem admitted_operator {operator : Operator} {left : HostValue} {right? : Option HostValue}
    {entry : Entry} (admitted : checkOperator types heap operator left right? = .ok entry) :
    entry.Live heap := by
  obtain ⟨leftOperand, leftKnown, admitted⟩ := of_bind_ok admitted
  obtain ⟨rightOperand?, rightKnown, admitted⟩ := of_bind_ok admitted
  obtain ⟨⟨owner?, entry?⟩, _, admitted⟩ := of_bind_ok admitted
  cases entry? with
  | none => cases admitted
  | some found =>
      cases admitted
      refine ⟨nofun, fun handle member => ?_⟩
      rcases List.mem_cons.mp member with same | inRight
      · exact live_of_operand leftKnown same
      · cases right? with
        | none => cases inRight
        | some right =>
            obtain ⟨rightOperand, known, _⟩ := of_bind_ok rightKnown
            exact live_of_operand known (List.mem_singleton.mp inRight)

/-- What a script sets about finds live instances only, whoever has made the values. -/
theorem Request.live_of_check {request : Request} {entry : Entry}
    (admitted : request.check types heap = .ok entry) : entry.Live heap := by
  cases request with
  | construct typeId arguments =>
      obtain ⟨given, marshalled, admitted⟩ := of_bind_ok admitted
      exact (admitted_construct admitted).live_iff.mpr fun _ => live_of_marshal marshalled
  | method receiver name arguments =>
      obtain ⟨found, _, admitted⟩ := of_bind_ok admitted
      obtain ⟨method, _, admitted⟩ := of_bind_ok admitted
      obtain ⟨given, marshalled, admitted⟩ := of_bind_ok admitted
      exact (admitted_method admitted).live_iff.mpr fun _ => live_of_marshal marshalled
  | read owner field => exact (admitted_read admitted).live_iff.mpr nofun
  | write owner field value =>
      obtain ⟨found, _, admitted⟩ := of_bind_ok admitted
      obtain ⟨declared, _, admitted⟩ := of_bind_ok admitted
      obtain ⟨given, crossed, admitted⟩ := of_bind_ok admitted
      refine (admitted_write admitted).live_iff.mpr fun handle member => ?_
      rw [← List.mem_singleton.mp member] at crossed
      exact live_of_toHost crossed
  | operator symbol left right =>
      obtain ⟨left, _, admitted⟩ := of_bind_ok admitted
      obtain ⟨right, _, admitted⟩ := of_bind_ok admitted
      exact admitted_operator admitted
  | negation operand => exact admitted_operator admitted
  | function descriptor arguments =>
      have marshalled : ∃ kinds given, marshal heap kinds arguments = .ok given ∧
          entry = .function descriptor given := by
        change checkScriptFunction heap descriptor arguments = _ at admitted
        unfold checkScriptFunction at admitted
        split at admitted
        · split at admitted
          · obtain ⟨given, marshalled, same⟩ := of_bind_ok admitted
            exact ⟨_, given, marshalled, (Except.ok.inj same).symm⟩
          · cases admitted
        · obtain ⟨given, marshalled, same⟩ := of_bind_ok admitted
          exact ⟨_, given, marshalled, (Except.ok.inj same).symm⟩
      obtain ⟨kinds, given, marshalled, rfl⟩ := marshalled
      exact ⟨nofun, fun handle member => live_of_marshal marshalled member⟩

end Call
end ScriptHost
