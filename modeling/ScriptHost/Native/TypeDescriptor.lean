import ScriptHost.Native.Routine

/-!
Descriptions of host types: what scripts and hosts can do with the instances of a type.

Fields and methods are found by name, the one declared last counting. Constructors and operator
entries may overlap and are tried in the order of their declaration.
-/

namespace ScriptHost

inductive Operator where
  | add
  | subtract
  | multiply
  | divide
  | negate
  | equal
  | notEqual
deriving DecidableEq, Repr, Inhabited

namespace Operator

def binary : List Operator :=
  [add, subtract, multiply, divide, equal, notEqual]

def symbol : Operator → String
  | add => "+"
  | subtract | negate => "-"
  | multiply => "*"
  | divide => "/"
  | equal => "=="
  | notEqual => "!="

end Operator

structure Constructor (type : HostType) where
  parameters : List Kind
  build : List HostValue → Routine type.Content

/-- Writing gives the new content and, where it fails, the fault. A field without `write` is
read-only. -/
structure Field (type : HostType) where
  kind : Kind
  read : type.Content → HostValue
  write? : Option (type.Content → HostValue → type.Content × Except Fault Unit)

structure Method (type : HostType) where
  parameters : List Kind
  call : type.Content → List HostValue → Routine HostValue

/-- An entry without a right operand is for the operator before its operand; it is applied to the
operand and to `null`. -/
structure OperatorEntry where
  operator : Operator
  left : Kind
  right? : Option Kind
  apply : HostValue → HostValue → Routine HostValue

structure TypeDescriptor where
  name : String
  type : HostType
  constructors : List (Constructor type)
  fields : List (String × Field type)
  methods : List (String × Method type)
  operators : List OperatorEntry
  display? : Option (type.Content → String)

def lastNamed {α : Type} (name : String) (entries : List (String × α)) : Option α :=
  entries.reverse.lookup name

def sortedNames {α : Type} (entries : List (String × α)) : List String :=
  ((entries.map Prod.fst).mergeSort fun left right => decide (left ≤ right)).eraseDups

def choiceText (numbers : List Nat) : String :=
  " or ".intercalate ((numbers.mergeSort fun left right => decide (left ≤ right)).eraseDups.map
    Nat.repr)

def checkKinds : List Kind → List HostValue → Except Fault Unit
  | kind :: kinds, argument :: arguments => do
      argument.expectKind kind
      checkKinds kinds arguments
  | _, _ => .ok ()

def checkArguments (callable : String) (parameters : List Kind) (arguments : List HostValue) :
    Except Fault Unit :=
  if parameters.length = arguments.length then
    checkKinds parameters arguments
  else
    .error (.arityMismatch callable parameters.length.repr arguments.length)

structure Operand where
  kind : Kind
  typeId? : Option TypeId
deriving DecidableEq, Repr

namespace Operand

def value (kind : Kind) : Operand := ⟨kind, none⟩

def object (typeId : TypeId) : Operand := ⟨.object, some typeId⟩

def fits (operand : Operand) (declared : Kind) (owner : TypeId) : Bool :=
  declared.accepts operand.kind && (operand.kind != .object || operand.typeId? == some owner)

end Operand

def OperatorEntry.covers (entry : OperatorEntry) (operator : Operator) (owner : TypeId)
    (left : Operand) (right? : Option Operand) : Bool :=
  entry.operator == operator && left.fits entry.left owner &&
    match entry.right?, right? with
    | some declared, some right => right.fits declared owner
    | none, none => true
    | _, _ => false

namespace TypeDescriptor

def named (name : String) (type : HostType) : TypeDescriptor :=
  ⟨name, type, [], [], [], [], none⟩

def fieldNames (descriptor : TypeDescriptor) : List String :=
  sortedNames descriptor.fields

def methodNames (descriptor : TypeDescriptor) : List String :=
  sortedNames descriptor.methods

def declaresMethod (descriptor : TypeDescriptor) (name : String) : Bool :=
  descriptor.methods.any fun entry => entry.1 == name

def declaresField (descriptor : TypeDescriptor) (name : String) : Bool :=
  descriptor.fields.any fun entry => entry.1 == name

def field (descriptor : TypeDescriptor) (name : String) :
    Except Fault (Field descriptor.type) :=
  match lastNamed name descriptor.fields with
  | some field => .ok field
  | none => .error (.unknownField descriptor.name name)

def method (descriptor : TypeDescriptor) (name : String) :
    Except Fault (Method descriptor.type) :=
  match lastNamed name descriptor.methods with
  | some method => .ok method
  | none => .error (.unknownMethod descriptor.name name)

def accepting (descriptor : TypeDescriptor) (arguments : List HostValue)
    (constructor : Constructor descriptor.type) : Bool :=
  match checkArguments descriptor.name constructor.parameters arguments with
  | .ok _ => true
  | .error _ => false

/-- The first constructor that takes the arguments. Where only the kinds are wrong, the fault is
that of the first constructor with the right number of parameters. -/
def selectConstructor (descriptor : TypeDescriptor) (arguments : List HostValue) :
    Except Fault (Constructor descriptor.type) :=
  let candidates := descriptor.constructors.filter fun constructor =>
    constructor.parameters.length == arguments.length
  match candidates with
  | [] =>
      let counts := descriptor.constructors.map fun constructor => constructor.parameters.length
      .error (.arityMismatch descriptor.name (choiceText counts) arguments.length)
  | first :: _ =>
      match candidates.find? (descriptor.accepting arguments) with
      | some constructor => .ok constructor
      | none =>
          match checkArguments descriptor.name first.parameters arguments with
          | .error fault => .error fault
          | .ok _ => .error (.arityMismatch descriptor.name "?" arguments.length)

def construct (descriptor : TypeDescriptor) (arguments : List HostValue) :
    Routine descriptor.type.Content := do
  let constructor ← descriptor.selectConstructor arguments
  constructor.build arguments

def operator? (descriptor : TypeDescriptor) (operator : Operator) (owner : TypeId)
    (left : Operand) (right? : Option Operand) : Option OperatorEntry :=
  descriptor.operators.find? fun entry => entry.covers operator owner left right?

def contentOf (descriptor : TypeDescriptor) (body : Instance) :
    Except Fault descriptor.type.Content :=
  match body.as? descriptor.type with
  | some content => .ok content
  | none => .error (.typeMismatch .object "object of another type")

def render (descriptor : TypeDescriptor) (handle : Handle) (body : Instance) : String :=
  match descriptor.display? with
  | some display =>
      match body.as? descriptor.type with
      | some content => display content
      | none => "<invalid>"
  | none => descriptor.name ++ handle.text

end TypeDescriptor
end ScriptHost
