import ScriptHost.Script.Run

/-!
Native functions by name.

Scripts call built-in functions, functions that the host has registered, and what the types of the
host offer. Each of them tells for every argument whether it takes values of one shape or any
value. Of the functions that take the arguments of a call, the one counts that is most particular,
and about earlier arguments rather than about later ones; among equals what the host has registered
comes first.

The functions in `Native.builtins` and the operators on plain data are all that the language has
here. The packages that usually come with it, `eval` and the functions that ask for definitions are
left out: a call of one of those is a call of something unknown.
-/

namespace ScriptHost.Script

inductive Shape where
  | any
  | unit
  | boolean
  | integer
  | float
  | text
  | letter
  | list
  | table
  | function
  | object
deriving DecidableEq, Repr

def Shape.accepts : Shape → Value → Bool
  | any, _ => true
  | unit, .datum .unit => true
  | boolean, .datum (.boolean _) => true
  | integer, .datum (.integer _) => true
  | float, .datum (.float _) => true
  | text, .datum (.text _) => true
  | letter, .datum (.letter _) => true
  | list, .list _ => true
  | table, .table _ => true
  | function, .function .. => true
  | object, .object _ => true
  | _, _ => false

inductive Builtin where
  /-- The empty text. -/
  | nothing
  /-- The text of a plain value on its own. -/
  | display
  /-- The text of a plain value inside a list. -/
  | nested
  /-- The text of a list or a table, whose items are asked for theirs. -/
  | assembled
  /-- The text that another function gives. -/
  | asked (name : String)
  /-- The text of any other value. -/
  | plain
  /-- The text of any other value inside a list. -/
  | bare
  | length
  | push
  | clear
  | affirm
  | negate
  | complement
  | join
  | concatenate
  | merge
  | joinInto
  | mergeInto
  | same
  | different
deriving DecidableEq, Repr

inductive Implementation where
  | method (name : String)
  | operator (operator : Operator)
  | negation
  | description
  | function (descriptor : FunctionDescriptor)
  | construct (typeId : TypeId)
  | builtin (builtin : Builtin)

/-- A native function. If it takes its first argument by reference, it may change that. -/
structure Native where
  shapes : List Shape
  byReference : Bool
  implementation : Implementation

namespace Native

def takes (native : Native) (values : List Value) : Bool :=
  native.shapes.length == values.length &&
    (native.shapes.zip values).all fun pair => pair.1.accepts pair.2

/-- The arguments of any shape as binary digits, the first argument being the highest. -/
def rank (native : Native) : Nat :=
  native.shapes.foldl (fun rank shape => 2 * rank + if shape = .any then 1 else 0) 0

/-- The least in rank, and of several the first. -/
def best? : List Native → Option Native
  | [] => none
  | native :: rest =>
      match best? rest with
      | some other => if other.rank < native.rank then some other else some native
      | none => some native

def anyArguments (count : Nat) : List Shape := List.replicate count .any

def hostOperator? (symbol : String) : Option Operator :=
  Operator.binary.find? fun operator => operator.symbol == symbol

/-- A method is found for instances of all types if one type declares it. -/
def methodsOf (types : TypeRegistry) (name : String) (count : Nat) : List Native :=
  if 0 < count && count ≤ argumentLimit + 1 && types.declaresMethod name then
    [⟨.object :: anyArguments (count - 1), true, .method name⟩]
  else
    []

def commonOf (name : String) (count : Nat) : List Native :=
  if count = 1 then
    if name == "to_string" || name == "to_debug" then [⟨[.object], true, .description⟩]
    else if name == Operator.negate.symbol then [⟨[.object], false, .negation⟩]
    else []
  else if count = 2 then
    match hostOperator? name with
    | some operator =>
        [[.object, .object], [.object, .any], [.any, .object]].map fun shapes =>
          ⟨shapes, false, .operator operator⟩
    | none => []
  else
    []

/-- Functions and types of the host take any values. -/
def functionsOf (types : TypeRegistry) (functions : FunctionRegistry) (name : String)
    (count : Nat) : List Native :=
  if count ≤ argumentLimit then
    match functions.find? FunctionRegistry.globalSpace name with
    | some function => [⟨anyArguments count, false, .function function⟩]
    | none =>
        match types.idOfName? name with
        | some typeId => [⟨anyArguments count, false, .construct typeId⟩]
        | none => []
  else
    []

def byValue (shapes : List Shape) (builtin : Builtin) : Native :=
  ⟨shapes, false, .builtin builtin⟩

def changing (shapes : List Shape) (builtin : Builtin) : Native :=
  ⟨shapes, true, .builtin builtin⟩

/-- Functions that give the text of a value on its own; `rest` takes all values without one of
these shapes. -/
def textFunctions (rest : Builtin) : List Native :=
  ([.text, .letter, .boolean, .unit, .float].map fun shape => byValue [shape] .display) ++
    [changing [.list] .assembled, changing [.table] .assembled, changing [.any] rest]

def debugFunctions (rest : Builtin) : List Native :=
  ([.letter, .boolean, .unit, .float].map fun shape => byValue [shape] .nested) ++
    [changing [.text] .nested, changing [.function] .nested, changing [.list] .assembled,
      changing [.table] .assembled, changing [.any] rest]

/-- All that is built in besides operators on plain data: `print`, `debug`, `to_string`, `to_debug`,
`len`, `push`, `clear`, and the operators that are functions. -/
def builtins (name : String) (count : Nat) : List Native :=
  match count, name with
  | 0, "print" | 0, "debug" => [byValue [] .nothing]
  | 1, "print" => textFunctions (.asked "to_string")
  | 1, "to_string" => textFunctions .plain
  | 1, "debug" => debugFunctions (.asked "to_debug")
  | 1, "to_debug" => debugFunctions .bare
  | 1, "len" =>
      [byValue [.text] .length, changing [.list] .length, changing [.table] .length]
  | 1, "clear" => [.text, .list, .table].map fun shape => changing [shape] .clear
  | 1, "+" => [byValue [.integer] .affirm, byValue [.float] .affirm]
  | 1, "-" => [byValue [.integer] .negate, byValue [.float] .negate]
  | 1, "!" => [byValue [.boolean] .complement]
  | 2, "push" => [changing [.list, .any] .push]
  | 2, "+" =>
      [byValue [.text, .any] .join, byValue [.any, .text] .join,
        byValue [.list, .list] .concatenate, byValue [.table, .table] .merge]
  | 2, "+=" => [changing [.text, .any] .joinInto, changing [.table, .table] .mergeInto]
  | 2, "==" => [byValue [.list, .list] .same, byValue [.table, .table] .same]
  | 2, "!=" => [byValue [.list, .list] .different, byValue [.table, .table] .different]
  | _, _ => []

def candidates (env : Environment) (name : String) (count : Nat) : List Native :=
  methodsOf env.types name count ++ commonOf name count ++
    functionsOf env.types env.functions name count ++ builtins name count

def resolve? (env : Environment) (name : String) (values : List Value) : Option Native :=
  best? ((candidates env name values.length).filter fun native => native.takes values)

def request? (native : Native) (values : List Value) : Option Call.Request :=
  match native.implementation, values with
  | .method name, .object reference :: rest => some (.method reference name rest)
  | .operator operator, [left, right] => some (.operator operator left right)
  | .negation, [.object reference] => some (.negation reference)
  | .function function, values => some (.function function values)
  | .construct typeId, values => some (.construct typeId values)
  | _, _ => none

end Native
end ScriptHost.Script
