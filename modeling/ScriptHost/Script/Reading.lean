import ScriptHost.Script.Name
import ScriptHost.Script.Simplification

/-!
Reading scripts: what a parser keeps in mind, and its smallest steps.

Reading knows the names that are visible at each place. In a strict session it refuses names that
nothing has introduced; everywhere it finds out which variables a closure takes from outside and
whether a declaration uses a variable of the same block once more. A mistake is reported with the
place of the token where it shows.
-/

namespace ScriptHost.Script

structure SyntaxFault where
  reason : String
  position : Position
deriving Repr, Inhabited

def SyntaxFault.message (fault : SyntaxFault) : String :=
  fault.reason ++ " (" ++ fault.position.text ++ ")"

structure LocalName where
  name : String
  constant : Bool

/-- Functions that have been read, no two of them with the same name and number of parameters. -/
structure Definitions where
  functions : Array Function
  distinct : (functions.toList.map Function.key).Nodup

namespace Definitions

def empty : Definitions := ⟨#[], List.nodup_nil⟩

def size (definitions : Definitions) : Nat := definitions.functions.size

def hasName (definitions : Definitions) (name : String) : Bool :=
  definitions.functions.any fun function => function.name == name

def has (definitions : Definitions) (key : String × Nat) : Bool :=
  definitions.functions.any fun function => function.key == key

theorem has_of_hasName {definitions : Definitions} {function : Function}
    (fresh : definitions.hasName function.name = false) : definitions.has function.key = false := by
  unfold hasName at fresh
  unfold has
  rw [Array.any_eq_false] at fresh ⊢
  intro index bound same
  have sameName : definitions.functions[index].name = function.name :=
    congrArg Prod.fst (beq_iff_eq.mp same)
  exact fresh index bound (beq_iff_eq.mpr sameName)

def add (definitions : Definitions) (function : Function)
    (fresh : definitions.has function.key = false) : Definitions where
  functions := definitions.functions.push function
  distinct := by
    rw [Array.toList_push, List.map_append, List.nodup_append]
    refine ⟨definitions.distinct, List.pairwise_singleton _ _, ?_⟩
    intro key known other last same
    obtain ⟨earlier, member, rfl⟩ := List.mem_map.mp known
    obtain rfl := List.mem_singleton.mp last
    have found : definitions.has function.key = true :=
      Array.any_eq_true'.mpr ⟨earlier, Array.mem_toList_iff.mp member, beq_iff_eq.mpr same⟩
    rw [fresh] at found
    cases found

end Definitions

/-- `locals` are the names visible, innermost first, of which the first `blockSize` belong to the
block being read. `outside` are the names that the function being read has taken from outside,
newest first. -/
structure Reading where
  input : List Located
  locals : List LocalName
  blockSize : Nat
  outside : List (String × Position)
  functions : Definitions

/-- What a script finds when it is read. `constant?` gives the constant that a global name stands
for. -/
structure Surroundings where
  limits : Limits
  strict : Bool
  globals : List String
  constant? : String → Option Constant
  modules : List String

def Surroundings.knowledge (surroundings : Surroundings) : Knowledge :=
  ⟨surroundings.limits.textSize, [], surroundings.constant?⟩

/-- Where in a script reading is. Where there are only expressions, neither a block nor a loop is
one. A bare block holds an expression and nothing else. -/
structure Setting where
  level : Nat
  depthLimit : Nat
  inFunction : Bool
  inClosure : Bool
  inLoop : Bool
  expressionOnly : Bool
  bareBlocks : Bool

abbrev Parser (α : Type) := ReaderT Surroundings (EStateM SyntaxFault Reading) α

inductive Goal where
  | expression
  | unary
  | assignment
  | loop
  | statement

/-- How the terms inside a term are read. -/
abbrev Grammar := Goal → Setting → Parser Term

namespace Parser

def failAt {α : Type} (position : Position) (reason : String) : Parser α :=
  throw ⟨reason, position⟩

def peek : Parser Located := do
  match (← get).input with
  | located :: _ => return located
  | [] => return ⟨.finish, default⟩

/-- Takes a token; the last one stays. -/
def next : Parser Located := do
  match (← get).input with
  | located :: second :: rest =>
      modify fun reading => { reading with input := second :: rest }
      return located
  | [located] => return located
  | [] => return ⟨.finish, default⟩

def unexpected {α : Type} (located : Located) : Parser α :=
  let reason := match located.token with
    | .invalid reason => reason
    | .finish => "script is incomplete"
    | _ => "unexpected token"
  failAt located.position reason

def atSymbol (sign : String) : Parser Bool := do
  match (← peek).token with
  | .symbol found => return found == sign
  | _ => return false

def atWord (name : String) : Parser Bool := do
  match (← peek).token with
  | .word found => return found == name
  | _ => return false

def accept (sign : String) : Parser Bool := do
  if ← atSymbol sign then
    let _ ← next
    return true
  else
    return false

def expect (sign : String) : Parser Unit := do
  if !(← accept sign) then
    unexpected (← peek)

def deeper (setting : Setting) : Parser Setting := do
  let level := setting.level + 1
  if Limits.allows setting.depthLimit level then
    return { setting with level := level }
  else
    failAt (← peek).position "expression is too deep"

def freshName : Parser (String × Position) := do
  let located ← peek
  match located.token with
  | .word name =>
      if Name.isFree name then
        let _ ← next
        return (name, located.position)
      else
        unexpected located
  | _ => unexpected located

def introduce (name : String) (constant : Bool) : Parser Unit :=
  modify fun reading => { reading with
    locals := ⟨name, constant⟩ :: reading.locals
    blockSize := reading.blockSize + 1 }

def local? (name : String) : Parser (Option LocalName) := do
  return (← get).locals.find? fun entry => entry.name == name

def isFunction (name : String) : Parser Bool := do
  return (← get).functions.hasName name

/-- Notes the use of a variable. A name that is not visible may be a global one or that of a
function; inside a closure it is settled where the closure stands. -/
def mention (setting : Setting) (name : String) (position : Position) : Parser Unit := do
  if (← local? name).isNone then
    let surroundings ← read
    let reading ← get
    if !reading.outside.any fun entry => entry.1 == name then
      set { reading with outside := (name, position) :: reading.outside }
    if surroundings.strict && !setting.inClosure && !surroundings.globals.contains name &&
        !(← isFunction name) then
      failAt position ("undefined variable: " ++ name)

/-- Reads a block of its own: the names it introduces are not visible afterwards. -/
def inBlock {α : Type} (inner : Parser α) : Parser α := do
  let before ← get
  set { before with blockSize := 0 }
  let result ← inner
  modify fun reading => { reading with locals := before.locals, blockSize := before.blockSize }
  return result

/-- Reads the body of a function, which sees its parameters only. The names it takes from outside
are given with the result. -/
def inFunction {α : Type} (parameters : List String) (inner : Parser α) :
    Parser (α × List (String × Position)) := do
  let before ← get
  let names := parameters.reverse.map fun name => (⟨name, false⟩ : LocalName)
  set { before with locals := names, blockSize := names.length, outside := [] }
  let result ← inner
  let outside := (← get).outside.reverse
  modify fun reading => { reading with
    locals := before.locals, blockSize := before.blockSize, outside := before.outside }
  return (result, outside)

/-- Reads items, separated by commas, until the closing symbol. `check` sees the number of items
before each one and before the end. -/
def separated {α : Type} (close : String) (check : Nat → Parser Unit) (item : Parser α) :
    Nat → List α → Parser (List α)
  | 0, _ => do unexpected (← peek)
  | fuel + 1, read => do
      check read.length
      if ← accept close then
        return read.reverse
      let value ← item
      if !(← accept ",") && !(← atSymbol close) then
        unexpected (← peek)
      separated close check item fuel (value :: read)

/-- More than the number of items that can follow. -/
def itemBound : Parser Nat := do
  return (← get).input.length + 1

def arguments (self : Grammar) (setting : Setting) : Parser (List Term) := do
  let setting ← deeper setting
  separated ")" (fun _ => pure ()) (self .expression setting) (← itemBound) []

end Parser
end ScriptHost.Script
