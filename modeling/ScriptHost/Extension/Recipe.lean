import ScriptHost.Session

/-!
Recipes: native callables and types given as data.

A record is an instance that holds a list of values. A recipe says what a callable does with its
arguments and, if it is a method, with the values of the record that it is called on.
-/

namespace ScriptHost.Extension

abbrev recordType (name : String) : HostType := ⟨name, .values⟩

/-- Makes records that hold the numbers from `number` on, and gives them after those made. -/
def makeNumbered (record : String) : Nat → Nat → List HostValue → Routine (List HostValue)
  | 0, _, made => return made.reverse
  | count + 1, number, made => do
      let item ← Routine.new (recordType record) [.number number.toFloat]
      makeNumbered record count (number + 1) (item :: made)

/-- `record` is the name of a host type. Missing arguments and values count as `null`. -/
inductive Recipe where
  | constant (value : HostValue)
  | echo (argument : Nat)
  | count
  | sum
  | concat
  | all
  | kinds
  | texts
  | live
  | typeName (argument : Nat)
  | recognise (record : String) (argument : Nat)
  | load (record : String) (argument index : Nat)
  | create (record : String)
  /-- Makes records that hold their numbers, and gives one of them or the count of what lives. -/
  | churn (record : String) (count : Nat) (returned? : Option Nat)
  | own (index : Nat)
  | fail (fault : Fault)
deriving Repr, Inhabited

namespace Recipe

def valueAt (values : List HostValue) (index : Nat) : HostValue :=
  values.getD index .null

def sumOf (arguments : List HostValue) : Except Fault Float :=
  arguments.foldlM (fun total argument => return total + (← argument.asNumber)) 0.0

def concatOf (arguments : List HostValue) : Except Fault String := do
  return String.join (← arguments.mapM HostValue.asText)

/-- Every argument must be a boolean, also after the first false one. -/
def allOf (arguments : List HostValue) : Except Fault Bool := do
  return (← arguments.mapM HostValue.asBoolean).all id

/-- `own` are the values of the record that a method is called on. -/
def routine (own arguments : List HostValue) : Recipe → Routine HostValue
  | constant value => return value
  | echo argument => return valueAt arguments argument
  | count => return .number arguments.length.toFloat
  | sum => return .number (← sumOf arguments)
  | concat => return .text (← concatOf arguments)
  | all => return .boolean (← allOf arguments)
  | kinds => return .text (",".intercalate (arguments.map fun argument => argument.kind.name))
  | texts => return .text (",".intercalate (arguments.map HostValue.display))
  | live => return .number (← Routine.liveObjects).toFloat
  | typeName argument => return .text (← Routine.typeNameOf (valueAt arguments argument))
  | recognise record argument =>
      return .boolean (← Routine.isInstance (recordType record) (valueAt arguments argument))
  | load record argument index => do
      let values ← Routine.contentOf (recordType record) (valueAt arguments argument)
      return valueAt values index
  | create record => Routine.new (recordType record) arguments
  | churn record total returned? => do
      let made ← makeNumbered record total 0 []
      match returned? with
      | some number => return valueAt made number
      | none => return .number (← Routine.liveObjects).toFloat
  | Recipe.own index => return valueAt own index
  | fail fault => Routine.fail fault

end Recipe

def recipeFunction (name : String) (kinds? : Option (List Kind)) (recipe : Recipe) :
    FunctionDescriptor :=
  match kinds? with
  | some kinds => .fixed name kinds fun arguments => recipe.routine [] arguments
  | none => .variadic name fun arguments => recipe.routine [] arguments

/-- A field reads one value of a record. Writing it fails with `refusal?`, or else writes the value
and fills the places before it with `null`. -/
structure RecordField where
  name : String
  kind : Kind
  index : Nat
  readOnly : Bool
  refusal? : Option Fault
deriving Repr

/-- Constructors keep their arguments or fail. Operators without a kind for the right operand have
one operand. -/
structure RecordDescription where
  name : String
  record : String
  constructors : List (List Kind × Option Fault)
  fields : List RecordField
  methods : List (String × List Kind × Recipe)
  operators : List (Operator × Kind × Option Kind × Recipe)
  display? : Option String

/-- The values with one replaced, behind as many `null`s as are missing. -/
def store (values : List HostValue) (index : Nat) (value : HostValue) : List HostValue :=
  (values ++ List.replicate (index + 1 - values.length) HostValue.null).set index value

def RecordField.field (field : RecordField) (record : String) : Field (recordType record) :=
  ⟨field.kind, fun values => Recipe.valueAt values field.index,
    if field.readOnly then
      none
    else
      some fun values value =>
        match field.refusal? with
        | some fault => (values, .error fault)
        | none => (store values field.index value, .ok ())⟩

def recordConstructor (record : String) (kinds : List Kind) (refusal? : Option Fault) :
    Constructor (recordType record) :=
  ⟨kinds, fun arguments =>
    match refusal? with
    | some fault => Routine.fail fault
    | none => Routine.done arguments⟩

def recordOperator (operator : Operator) (left : Kind) (right? : Option Kind)
    (recipe : Recipe) : OperatorEntry :=
  ⟨operator, left, right?, fun first second =>
    recipe.routine [] (if right?.isSome then [first, second] else [first])⟩

def recordText (opening : String) (values : List HostValue) : String :=
  opening ++ "<" ++ ",".intercalate (values.map HostValue.display) ++ ">"

def RecordDescription.descriptor (description : RecordDescription) : TypeDescriptor where
  name := description.name
  type := recordType description.record
  constructors := description.constructors.map fun (kinds, refusal?) =>
    recordConstructor description.record kinds refusal?
  fields := description.fields.map fun field => (field.name, field.field description.record)
  methods := description.methods.map fun (name, kinds, recipe) =>
    (name, ⟨kinds, fun own arguments => recipe.routine own arguments⟩)
  operators := description.operators.map fun (operator, left, right?, recipe) =>
    recordOperator operator left right? recipe
  display? := description.display?.map fun opening => recordText opening

end ScriptHost.Extension
