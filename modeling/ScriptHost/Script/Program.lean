import ScriptHost.Script.Statement

/-!
Whole scripts and single expressions, read from text.
-/

namespace ScriptHost.Script

/-- A script that has been read: its functions and what it does itself. -/
structure Program where
  functions : List Function
  body : List Term
  distinct : (functions.map Function.key).Nodup

namespace Parser

def script (self : Grammar) (setting : Setting) : Nat → List Term → Parser (List Term)
  | 0, _ => do unexpected (← peek)
  | fuel + 1, read => do
      let first ← peek
      match first.token with
      | .finish => return read.reverse
      | .symbol ";" =>
          let _ ← next
          script self setting fuel read
      | .word "fn" =>
          let _ ← next
          definition self first.position
          script self setting fuel read
      | _ =>
          let read := (← statement self setting) :: read
          if ← accept ";" then
            script self setting fuel read
          else
            let following ← peek
            match following.token with
            | .finish => return read.reverse
            | .invalid _ => unexpected following
            | _ =>
                if endsItself first.token then script self setting fuel read
                else unexpected following

def run {α : Type} (parser : Parser α) (surroundings : Surroundings) (text : String) :
    Except SyntaxFault (α × Definitions) :=
  let allowed := Limits.allows surroundings.limits.textSize
  match parser surroundings ⟨tokens allowed text, [], 0, [], .empty⟩ with
  | .ok result reading => .ok (result, reading.functions)
  | .error fault _ => .error fault

def topSetting (surroundings : Surroundings) (expressionOnly : Bool) : Setting := {
  level := 0, depthLimit := surroundings.limits.expressionDepth, inFunction := false,
  inClosure := false, inLoop := false, expressionOnly := expressionOnly,
  bareBlocks := expressionOnly }

end Parser

namespace Program

def simplified (surroundings : Surroundings) (definitions : Definitions) (body : List Term) :
    Program :=
  let known := surroundings.knowledge
  let functions := definitions.functions.toList
  ⟨functions.map known.simplifyFunction, known.simplifyBody body, by
    have same : Function.key ∘ known.simplifyFunction = Function.key :=
      funext known.key_simplifyFunction
    rw [List.map_map, same]
    exact definitions.distinct⟩

def read (surroundings : Surroundings) (text : String) : Except SyntaxFault Program := do
  let parser : Parser (List Term) := do
    let bound := 4 * (← Parser.itemBound)
    Parser.script (Parser.term bound) (Parser.topSetting surroundings false) bound []
  let (body, functions) ← Parser.run parser surroundings text
  return simplified surroundings functions body

/-- Reads a single expression, which fills the whole text. -/
def readExpression (surroundings : Surroundings) (text : String) :
    Except SyntaxFault Program := do
  let parser : Parser Term := do
    let bound := 4 * (← Parser.itemBound)
    let read ← Parser.term bound .expression (Parser.topSetting surroundings true)
    let following ← Parser.peek
    match following.token with
    | .finish => return read
    | _ => Parser.unexpected following
  let (body, functions) ← Parser.run parser surroundings text
  return simplified surroundings functions [body]

end Program
end ScriptHost.Script
