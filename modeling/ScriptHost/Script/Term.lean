import ScriptHost.Script.Token
import ScriptHost.Script.Value

/-!
Scripts as trees.

Everything that a script does is a term; a statement is a term whose value is mostly the absence
of one. A chain is a term with members, calls and indices applied to it from left to right; its
arguments are evaluated before its root.
-/

namespace ScriptHost.Script

inductive Operation where
  | add
  | subtract
  | multiply
  | divide
  | remainder
  | equal
  | notEqual
  | less
  | lessEqual
  | greater
  | greaterEqual
  | bitAnd
  | bitOr
  | bitXor
  | shiftLeft
  | shiftRight
  | range
  | inclusiveRange
deriving DecidableEq, Repr, Inhabited

def Operation.symbol : Operation → String
  | add => "+"
  | subtract => "-"
  | multiply => "*"
  | divide => "/"
  | remainder => "%"
  | equal => "=="
  | notEqual => "!="
  | less => "<"
  | lessEqual => "<="
  | greater => ">"
  | greaterEqual => ">="
  | bitAnd => "&"
  | bitOr => "|"
  | bitXor => "^"
  | shiftLeft => "<<"
  | shiftRight => ">>"
  | range => ".."
  | inclusiveRange => "..="

mutual

inductive Term where
  | literal (value : Literal) (position : Position)
  | lookup (name : String) (position : Position)
  /-- A constant of the session that refers to instances, by its index. -/
  | constant (name : String) (index : Nat) (position : Position)
  | receiver (position : Position)
  | list (items : List Term) (position : Position)
  | table (entries : List (String × Term)) (position : Position)
  | interpolation (pieces : List Term) (position : Position)
  | call (name : String) (arguments : List Term) (position : Position)
  /-- A call into a module; the positions are those of the module and of the function. -/
  | moduleCall (space name : String) (arguments : List Term) (start position : Position)
  | moduleLookup (space name : String) (start : Position)
  | negation (operand : Term) (position : Position)
  | complement (operand : Term) (position : Position)
  | binary (operation : Operation) (left right : Term) (position : Position)
  | conjunction (left right : Term) (position : Position)
  | disjunction (left right : Term) (position : Position)
  /-- The position is that of the first dot or bracket. -/
  | chain (root : Term) (links : List Link) (position : Position)
  | conditional (condition consequence alternative : Term) (position : Position)
  /-- A function value. Variables that are bound to it are shared with it from then on. -/
  | closure (name : String) (bound : List Term) (position : Position)
  | block (statements : List Term) (position : Position)
  /-- `again` where the block has declared the name before and the variable is used once more. -/
  | declaration (name : String) (constant again : Bool) (value : Term) (position : Position)
  | assignment (operation? : Option Operation) (target value : Term) (position : Position)
  | whileLoop (condition body : Term) (position : Position)
  | forLoop (name : String) (namePosition : Position) (iterated body : Term)
      (position : Position)
  | breaking (value : Term) (position : Position)
  | continuing (position : Position)
  | returning (value : Term) (position : Position)
  | throwing (value : Term) (position : Position)
  | attempt (body : Term) (caught? : Option (String × Position)) (handler : Term)
      (position : Position)

inductive Link where
  | property (name : String) (position : Position)
  | index (key : Term) (position : Position)
  | method (name : String) (arguments : List Term) (position : Position)

end

instance : Inhabited Term := ⟨.literal .unit default⟩

def Link.position : Link → Position
  | property _ position | index _ position | method _ _ position => position

namespace Term

def position : Term → Position
  | literal _ position | lookup _ position | constant _ _ position | receiver position
  | list _ position | table _ position | interpolation _ position | call _ _ position
  | moduleCall _ _ _ _ position | moduleLookup _ _ position | negation _ position
  | complement _ position
  | binary _ _ _ position | conjunction _ _ position | disjunction _ _ position
  | chain _ _ position | conditional _ _ _ position | closure _ _ position | block _ position
  | declaration _ _ _ _ position | assignment _ _ _ position | whileLoop _ _ position
  | forLoop _ _ _ _ position | breaking _ position | continuing position | returning _ position
  | throwing _ position | attempt _ _ _ position => position

/-- The place where a chain or a condition of several parts begins. -/
def start : Term → Position
  | chain root _ _ => root.start
  | conjunction left _ _ | disjunction left _ _ => left.start
  | term => term.position

def unit (position : Position) : Term := .literal .unit position

def datum (value : Datum) (position : Position) : Term := .literal (.datum value) position

def literal? : Term → Option Literal
  | literal value _ => some value
  | _ => none

def value? (term : Term) : Option Value :=
  term.literal?.map Literal.value

end Term

/-- A function that a script defines. A closure has a name that tells what it is written like. -/
structure Function where
  name : String
  parameters : List String
  body : Term
  isClosure : Bool
deriving Inhabited

/-- What tells a function from the others that can be called. -/
def Function.key (function : Function) : String × Nat :=
  (function.name, function.parameters.length)

/-- The functions that scripts have defined, at most one for a name and a number of
parameters. -/
abbrev Library := List Function

namespace Library

def find? (library : Library) (name : String) (count : Nat) : Option Function :=
  List.find? (fun function => function.name == name && function.parameters.length == count)
    library

def defines (library : Library) (name : String) : Bool :=
  List.any library fun function => function.name == name

def parameterCounts (library : Library) (name : String) : List Nat :=
  (List.filter (fun function => function.name == name) library).map fun function =>
    function.parameters.length

/-- Adds definitions, which replace those with the same name and number of parameters. -/
def merge (library additions : Library) : Library :=
  (List.filter (fun function =>
    (find? additions function.name function.parameters.length).isNone) library) ++ additions

end Library

end ScriptHost.Script
