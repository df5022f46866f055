import ScriptHost.Script.Expression

/-!
Reading statements.

Statements are those of the language but for `switch`, `do`, `import` and `export`, and functions
are never private. Where one of these stands, reading fails.
-/

namespace ScriptHost.Script.Parser

/-- Assignment operators, with the operation done before the assignment. -/
def assignmentOf? : String → Option (Option Operation)
  | "=" => some none
  | "+=" => some (some .add)
  | "-=" => some (some .subtract)
  | "*=" => some (some .multiply)
  | "/=" => some (some .divide)
  | "%=" => some (some .remainder)
  | "&=" => some (some .bitAnd)
  | "|=" => some (some .bitOr)
  | "^=" => some (some .bitXor)
  | "<<=" => some (some .shiftLeft)
  | ">>=" => some (some .shiftRight)
  | _ => none

def checkWritable (name : String) (position : Position) : Parser Unit := do
  match ← local? name with
  | some entry =>
      if entry.constant then failAt position ("cannot assign to constant: " ++ name)
  | none => return ()

/-- Only variables, and members and items of variables, can be assigned to. Whether a member or an
item may change is found out when the script runs. -/
def checkTarget : Term → Parser Unit
  | .receiver _ => return ()
  | .lookup name position => checkWritable name position
  | .chain root links position => do
      if links.any fun link => match link with
          | .method .. => true
          | _ => false then
        failAt position "cannot assign to this expression"
      match root with
      | .receiver _ | .lookup .. => return ()
      | other => failAt other.position "cannot assign to this expression"
  | other => failAt other.position "cannot assign to this expression"

def expressionStatement (self : Grammar) (setting : Setting) : Parser Term := do
  let target ← expression self setting
  let located ← peek
  match located.token with
  | .symbol sign =>
      match assignmentOf? sign with
      | some operation? =>
          let _ ← next
          let setting ← deeper setting
          let value ← self .expression setting
          checkTarget target
          return .assignment operation? target value located.position
      | none => return target
  | _ => return target

def declaration (self : Grammar) (setting : Setting) (constant : Bool)
    (start : Position) : Parser Term := do
  let setting ← deeper setting
  let (name, position) ← freshName
  let value ← if ← accept "=" then self .expression setting else pure (.unit position)
  let reading ← get
  let own := reading.locals.take reading.blockSize
  if own.any fun entry => entry.name == name then
    let renew (entry : LocalName) : LocalName :=
      if entry.name == name then ⟨name, constant⟩ else entry
    set { reading with
      locals := own.map renew ++ reading.locals.drop reading.blockSize }
    return .declaration name constant true value start
  else
    introduce name constant
    return .declaration name constant false value start

def valueFollows : Parser Bool := do
  match (← peek).token with
  | .finish | .symbol ";" | .symbol "\x7d" => return false
  | _ => return true

def optionalValue (self : Grammar) (setting : Setting) (position : Position) : Parser Term := do
  if ← valueFollows then
    let setting ← deeper setting
    self .expression setting
  else
    return .unit position

def loopBody (self : Grammar) (setting : Setting) : Parser Term :=
  block self { setting with inLoop := true }

def forLoop (self : Grammar) (setting : Setting) (position : Position) : Parser Term := do
  let setting ← deeper setting
  let (name, namePosition) ← freshName
  if !(← atWord "in") then
    unexpected (← peek)
  let _ ← next
  let iterated ← self .expression setting
  if iterated.neverIterable then
    failAt iterated.position "an iterable value is needed"
  let body ← inBlock do
    introduce name false
    loopBody self setting
  return .forLoop name namePosition iterated body position

def whileLoop (self : Grammar) (setting : Setting) (position : Position) : Parser Term := do
  let setting ← deeper setting
  let condition ← checkCondition (← self .expression setting)
  return .whileLoop condition (← loopBody self setting) position

def loop (self : Grammar) (setting : Setting) : Parser Term := do
  let located ← next
  let position := located.position
  match located.token with
  | .word "while" => whileLoop self setting position
  | .word "loop" =>
      let setting ← deeper setting
      return .whileLoop (.datum (.boolean true) position) (← loopBody self setting) position
  | .word "for" => forLoop self setting position
  | _ => unexpected located

def attempt (self : Grammar) (setting : Setting) (position : Position) : Parser Term := do
  let setting ← deeper setting
  let body ← block self setting
  if !(← atWord "catch") then
    unexpected (← peek)
  let _ ← next
  let caught? ← if ← accept "(" then
      let caught ← freshName
      expect ")"
      pure (some caught)
    else
      pure none
  let handler ← inBlock do
    caught?.forM fun caught => introduce caught.1 false
    block self setting
  return .attempt body caught? handler position

def statement (self : Grammar) (setting : Setting) : Parser Term := do
  let located ← peek
  let position := located.position
  match located.token with
  | .symbol "\x7b" =>
      let _ ← next
      blockRest self setting position
  | .word "let" =>
      let _ ← next
      declaration self setting false position
  | .word "const" =>
      let _ ← next
      declaration self setting true position
  | .word "if" =>
      let _ ← next
      conditional self setting position
  | .word "while" | .word "loop" | .word "for" => loop self setting
  | .word "break" =>
      if !setting.inLoop then failAt position "break outside of a loop"
      let _ ← next
      return .breaking (← optionalValue self setting position) position
  | .word "continue" =>
      if !setting.inLoop then failAt position "continue outside of a loop"
      let _ ← next
      return .continuing position
  | .word "return" =>
      let _ ← next
      return .returning (← optionalValue self setting position) position
  | .word "throw" =>
      let _ ← next
      return .throwing (← optionalValue self setting position) position
  | .word "try" =>
      let _ ← next
      attempt self setting position
  | .word "fn" => failAt position "functions are defined at the top of a script"
  | _ => expressionStatement self setting

/-- Reads one term; every nested one has consumed a token since, so the number of tokens bounds
the nesting. -/
def term : Nat → Goal → Setting → Parser Term
  | 0, _, _ => do unexpected (← peek)
  | fuel + 1, .expression, setting => expression (term fuel) setting
  | fuel + 1, .unary, setting => unary (term fuel) setting
  | fuel + 1, .assignment, setting => expressionStatement (term fuel) setting
  | fuel + 1, .loop, setting => loop (term fuel) setting
  | fuel + 1, .statement, setting => statement (term fuel) setting

end ScriptHost.Script.Parser
