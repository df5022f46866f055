import ScriptHost.Script.Block
import ScriptHost.Script.Foresight

/-!
Reading expressions.

Operators have strengths. A chain binds more strongly than any of them, and a sign before a chain
more strongly than the operators after it.

Expressions are those of the language but for `switch`, `do` loops, powers, tests with `in` and `??`.
Where one of these stands, reading fails.
-/

namespace ScriptHost.Script.Parser

def checkCondition (term : Term) : Parser Term :=
  if term.neverBoolean then failAt term.position "a boolean is needed" else return term

/-- The rest of a text with expressions, the fragments before it being read already. -/
def interpolation (self : Grammar) (setting : Setting)
    (start : Position) : Nat → List Term → Parser Term
  | 0, _ => do unexpected (← peek)
  | fuel + 1, read => do
      let piece ← blockRest self setting (← peek).position
      let located ← next
      let add (value : String) : List Term :=
        if value.isEmpty then piece :: read
        else .datum (.text value) located.position :: piece :: read
      match located.token with
      | .text value => return .interpolation (add value).reverse start
      | .fragment value => interpolation self setting start fuel (add value)
      | _ => unexpected located

/-- Fails where a list is as long as it may be, so that nothing can follow, not even its end. -/
def checkListSize (size : Nat) : Parser Unit := do
  if !Limits.allows (← read).limits.listSize (size + 1) then
    failAt (← peek).position "list is too long"

def checkTableSize (size : Nat) : Parser Unit := do
  if !Limits.allows (← read).limits.tableSize size then
    failAt (← peek).position "table is too long"

def tableKey (before : List (String × Term)) : Parser String := do
  let located ← peek
  let name ← match located.token with
    | .word name => if Name.isFree name then pure name else unexpected located
    | .text value => pure value
    | _ => unexpected located
  if before.any fun entry => entry.1 == name then
    failAt located.position ("duplicate property: " ++ name)
  let _ ← next
  return name

def tableEntries (self : Grammar) (setting : Setting) :
    Nat → List (String × Term) → Parser (List (String × Term))
  | 0, _ => do unexpected (← peek)
  | fuel + 1, read => do
      if ← accept "\x7d" then
        return read.reverse
      let name ← tableKey read
      expect ":"
      checkTableSize (read.length + 1)
      let value ← self .expression setting
      if !(← accept ",") && !(← atSymbol "\x7d") then
        unexpected (← peek)
      tableEntries self setting fuel ((name, value) :: read)

def path : Nat → List String → Parser (List String × String × Position)
  | 0, _ => do unexpected (← peek)
  | fuel + 1, read => do
      let located ← peek
      match located.token with
      | .word name =>
          if Name.isFree name then
            let _ ← next
            if ← accept "::" then
              path fuel (name :: read)
            else
              return (read.reverse, name, located.position)
          else
            unexpected located
      | _ => unexpected located

def qualified (self : Grammar) (setting : Setting) (space : String)
    (start : Position) : Parser Term := do
  let (spaces, name, position) ← path (← itemBound) [space]
  let surroundings ← read
  if surroundings.strict && !surroundings.modules.contains space then
    failAt start ("undefined module: " ++ space)
  let space := "::".intercalate spaces
  if ← accept "(" then
    return .moduleCall space name (← arguments self setting) start position
  else
    return .moduleLookup space name start

def conditional (self : Grammar) (setting : Setting) (position : Position) : Parser Term := do
  let setting ← deeper setting
  let condition ← checkCondition (← self .expression setting)
  let consequence ← block self setting
  if ← atWord "else" then
    let _ ← next
    let located ← peek
    if ← atWord "if" then
      -- A condition that follows is a statement of its own.
      return .conditional condition consequence (← self .statement setting) position
    else if ← atSymbol "\x7b" then
      return .conditional condition consequence (← block self setting) position
    else
      unexpected located
  else
    return .conditional condition consequence (.unit position) position

def loopWords : List String := ["while", "loop", "for"]

def word (self : Grammar) (setting : Setting) (name : String)
    (position : Position) : Parser Term := do
  if name == "true" then
    return .datum (.boolean true) position
  else if name == "false" then
    return .datum (.boolean false) position
  else if name == "if" then
    conditional self setting position
  else if name == "this" then
    if setting.inFunction then return .receiver position
    else failAt position "reserved word"
  else if Name.builtinNames.contains name then
    if ← accept "(" then
      return .call name (← arguments self setting) position
    else
      failAt position "reserved word"
  else if !Name.isFree name then
    failAt position "reserved word"
  else if ← accept "(" then
    return .call name (← arguments self setting) position
  else if ← accept "::" then
    qualified self setting name position
  else
    mention setting name position
    return .lookup name position

def operand (self : Grammar) (setting : Setting) (located : Located) : Parser Term := do
  let position := located.position
  match located.token with
  | .integer value => return .datum (.integer value) position
  | .float value => return .datum (.float value) position
  | .letter value => return .datum (.letter value) position
  | .text value => return .datum (.text value) position
  | .fragment value =>
      let first := if value.isEmpty then [] else [Term.datum (.text value) position]
      interpolation self setting position (← itemBound) first
  | .word name => word self setting name position
  | .symbol "(" =>
      if ← accept ")" then
        return .unit position
      let setting ← deeper setting
      let inner ← self .expression setting
      expect ")"
      return inner
  | .symbol "[" =>
      let setting ← deeper setting
      let items ← separated "]" checkListSize (self .expression setting) (← itemBound) []
      return .list items position
  | .symbol "#\x7b" =>
      let setting ← deeper setting
      return .table (← tableEntries self setting (← itemBound) []) position
  | .symbol "\x7b" =>
      if setting.expressionOnly then
        unexpected located
      else
        blockRest self setting position
  | .symbol "|" => closure self setting true position
  | .symbol "||" => closure self setting false position
  | _ => unexpected located

def primary (self : Grammar) (setting : Setting) : Parser Term := do
  let located ← peek
  match located.token with
  | .word name =>
      if loopWords.contains name && !setting.expressionOnly then
        self .loop setting
      else
        operand self setting (← next)
  | _ => operand self setting (← next)

def member (self : Grammar) (setting : Setting) : Parser Link := do
  let located ← next
  match located.token with
  | .word name =>
      if Name.isFree name then
        if ← accept "(" then
          return .method name (← arguments self setting) located.position
        else
          return .property name located.position
      else if Name.builtinMethods.contains name then
        if ← accept "(" then
          return .method name (← arguments self setting) located.position
        else
          unexpected located
      else
        unexpected located
  | _ => unexpected located

/-- The links of a chain after its root, the ones read last first. -/
def links (self : Grammar) (setting : Setting) (root : Term) :
    Nat → List Link → Parser (List Link)
  | 0, read => return read
  | fuel + 1, read => do
      let located ← peek
      match located.token with
      | .symbol "." =>
          let _ ← next
          let setting ← deeper setting
          let link ← member self setting
          links self setting root fuel (link :: read)
      | .symbol "[" =>
          let _ ← next
          let setting ← deeper setting
          let key ← self .expression setting
          if read.isEmpty && root.neverIndexed key then
            failAt key.position "malformed index"
          expect "]"
          links self setting root fuel (.index key located.position :: read)
      | _ => return read

def chain (self : Grammar) (setting : Setting) : Parser Term := do
  let root ← primary self setting
  let position := (← peek).position
  match ← links self setting root (← itemBound) [] with
  | [] => return root
  | read => return .chain root read.reverse position

/-- A number keeps a plus sign before it; other values are added up alone. -/
def affirmed (position : Position) : Term → Term
  | .literal ⟨.datum (.integer value), _⟩ start => .datum (.integer value) start
  | .literal ⟨.datum (.float value), _⟩ start => .datum (.float value) start
  | operand => .call Operation.add.symbol [operand] position

def negated (position : Position) : Term → Term
  | .literal ⟨.datum (.integer value), _⟩ _ =>
      if value = Int64.minValue then
        .datum (.float (-(Float.ofInt value.toInt))) position
      else
        .datum (.integer (-value)) position
  | .literal ⟨.datum (.float value), _⟩ _ => .datum (.float (-value)) position
  | operand => .negation operand position

def unary (self : Grammar) (setting : Setting) : Parser Term := do
  let setting ← deeper setting
  let located ← peek
  match located.token with
  | .symbol "-" =>
      let _ ← next
      return negated located.position (← self .unary setting)
  | .symbol "+" =>
      let _ ← next
      return affirmed located.position (← self .unary setting)
  | .symbol "!" =>
      let _ ← next
      return .complement (← self .unary setting) located.position
  | _ => chain self setting

def operationOf? : String → Option Operation
  | "+" => some .add
  | "-" => some .subtract
  | "*" => some .multiply
  | "/" => some .divide
  | "%" => some .remainder
  | "==" => some .equal
  | "!=" => some .notEqual
  | "<" => some .less
  | "<=" => some .lessEqual
  | ">" => some .greater
  | ">=" => some .greaterEqual
  | "&" => some .bitAnd
  | "|" => some .bitOr
  | "^" => some .bitXor
  | "<<" => some .shiftLeft
  | ">>" => some .shiftRight
  | ".." => some .range
  | "..=" => some .inclusiveRange
  | _ => none

/-- How strongly an operator binds; zero for symbols that are not operators. -/
def strength : String → Nat
  | "||" | "|" | "^" => 30
  | "&&" | "&" => 60
  | "==" | "!=" => 90
  | "<" | "<=" | ">" | ">=" => 130
  | ".." | "..=" => 140
  | "+" | "-" => 150
  | "*" | "/" | "%" => 180
  | "<<" | ">>" => 210
  | _ => 0

def peekStrength : Parser Nat := do
  match (← peek).token with
  | .symbol sign => return strength sign
  | _ => return 0

def combine (sign : String) (left right : Term) (position : Position) : Parser Term := do
  match sign with
  | "||" => return .disjunction (← checkCondition left) (← checkCondition right) position
  | "&&" => return .conjunction (← checkCondition left) (← checkCondition right) position
  | _ =>
      match operationOf? sign with
      | some operation => return .binary operation left right position
      | none => failAt position "unexpected operator"

/-- Continues an expression with the operators that bind more strongly than `least`. Every
operator counts as a level of depth. -/
def operators (self : Grammar) : Nat → Setting → Nat → Term → Parser Term
  | 0, _, _, left => return left
  | fuel + 1, setting, least, left => do
      let located ← peek
      match located.token with
      | .symbol sign =>
          let own := strength sign
          if own ≤ least then
            return left
          let _ ← next
          let right ← self .unary setting
          let following ← peekStrength
          let right ← if own < following then
              operators self fuel setting own right
            else
              pure right
          let setting ← deeper setting
          operators self fuel setting least (← combine sign left right located.position)
      | _ => return left

def expression (self : Grammar) (setting : Setting) : Parser Term := do
  let setting ← deeper setting
  let left ← unary self setting
  operators self (← itemBound) setting 0 left

end ScriptHost.Script.Parser
