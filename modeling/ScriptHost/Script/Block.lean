import ScriptHost.Script.Reading

/-!
Reading blocks and functions.

A block has names of its own, and so does the body of a function. Closures are functions as well:
they are named after what they are written like.
-/

namespace ScriptHost.Script.Parser

def endsItself : Token → Bool
  | .symbol sign => sign == "\x7b"
  | .word name => ["if", "while", "loop", "for", "try", "fn"].contains name
  | _ => false

def statements (self : Grammar) (setting : Setting) : Nat → List Term → Parser (List Term)
  | 0, _ => do unexpected (← peek)
  | fuel + 1, read => do
      if ← accept "\x7d" then
        return read.reverse
      if ← accept ";" then
        statements self setting fuel read
      else
        let first ← peek
        let statement ← self .statement setting
        let read := statement :: read
        if ← accept ";" then
          statements self setting fuel read
        else if endsItself first.token || (← atSymbol "\x7d") then
          statements self setting fuel read
        else
          unexpected (← peek)

/-- The only expression of a bare block, and the closing brace. -/
def bareStatement (self : Grammar) (setting : Setting) : Parser (List Term) := do
  let statement ← self .assignment setting
  expect "\x7d"
  return [statement]

def blockRest (self : Grammar) (setting : Setting) (position : Position) : Parser Term := do
  let setting ← deeper setting
  let inner ← inBlock do
    if setting.bareBlocks then bareStatement self setting
    else statements self setting (← itemBound) []
  return .block inner position

def block (self : Grammar) (setting : Setting) : Parser Term := do
  let position := (← peek).position
  expect "\x7b"
  blockRest self setting position

def parameter (before : List String) : Parser String := do
  let (name, position) ← freshName
  if before.contains name then
    failAt position ("duplicate parameter: " ++ name)
  return name

def parameters (close : String) : Nat → List String → Parser (List String)
  | 0, _ => do unexpected (← peek)
  | fuel + 1, read => do
      if ← accept close then
        return read.reverse
      let name ← parameter read
      if ← accept "," then
        parameters close fuel (name :: read)
      else
        expect close
        return (name :: read).reverse

def define (reading : Reading) (function : Function)
    (fresh : reading.functions.has function.key = false) (position : Position) : Parser Unit := do
  if Limits.allows (← read).limits.functions (reading.functions.size + 1) then
    set { reading with functions := reading.functions.add function fresh }
  else
    failAt position "too many functions"

/-- The name in a definition. Built-in functions can be defined anew. -/
def functionName : Parser (String × Position) := do
  let located ← peek
  match located.token with
  | .word name =>
      if Name.isFree name || Name.builtinNames.contains name then
        let _ ← next
        return (name, located.position)
      else
        unexpected located
  | _ => unexpected located

def definition (self : Grammar) (position : Position) : Parser Unit := do
  let (name, _) ← functionName
  expect "("
  let names ← parameters ")" (← itemBound) []
  let setting : Setting := {
    level := 0, depthLimit := (← read).limits.functionExpressionDepth,
    inFunction := true, inClosure := false, inLoop := false, expressionOnly := false,
    bareBlocks := false }
  let (body, _) ← inFunction names (block self setting)
  let function : Function := ⟨name, names, body, false⟩
  let reading ← get
  if fresh : reading.functions.has function.key = false then
    define reading function fresh position
  else
    failAt position ("duplicate function: " ++ name)

def tokenMark (located : Located) : String :=
  let written := match located.token with
    | .integer value => toString value.toInt
    | .float value => toString value.toBits
    | .text value => "'" ++ value
    | .letter value => "," ++ value.toString
    | .fragment value => ";" ++ value
    | .word name => name
    | .symbol sign => sign
    | .invalid reason => reason
    | .finish => ""
  located.position.line.repr ++ ":" ++ located.position.column.repr ++ written

/-- The names from outside that a closure is bound to: all but those of functions, which it finds
by itself. -/
def bindings (setting : Setting) (outside : List (String × Position)) : Parser (List Term) := do
  let taken ← outside.filterM fun entry => do
    return (← local? entry.1).isSome || !(← isFunction entry.1)
  taken.forM fun entry => mention setting entry.1 entry.2
  return taken.map fun entry => .lookup entry.1 entry.2

/-- A closure after its first bar, or after both where it takes nothing. It is a function whose
first parameters are the variables taken from outside, and its name is what it is written like,
so that the same closure read again is the same function. -/
def closure (self : Grammar) (setting : Setting) (open_ : Bool)
    (position : Position) : Parser Term := do
  let before := (← get).input
  let names ← if open_ then parameters "|" (← itemBound) [] else pure []
  let setting ← deeper setting
  let inner := { setting with
    inFunction := true, inClosure := true, inLoop := false, expressionOnly := false }
  let (body, outside) ← inFunction names (self .statement inner)
  let bound ← bindings setting outside
  let boundNames := bound.filterMap fun term => match term with
    | .lookup name _ => some name
    | _ => none
  let taken := before.take (before.length - (← get).input.length)
  let name := "anon$" ++ "$".intercalate (boundNames ++ taken.map tokenMark)
  let function : Function := ⟨name, boundNames ++ names, body, true⟩
  let reading ← get
  if fresh : reading.functions.hasName function.name = false then
    define reading function (Definitions.has_of_hasName fresh) position
  return .closure name bound position

end ScriptHost.Script.Parser
