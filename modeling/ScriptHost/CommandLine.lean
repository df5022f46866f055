import ScriptHost.Extension.Math
import ScriptHost.Json.Document
import ScriptHost.Session.Objects
import ScriptHost.Session.Scripts

/-!
The command line: running one script file, and perhaps one of its functions, in a fresh session
with the extension for mathematics.

The form of a command is `FILE [--call NAME [ARGS..]] [--seed N]`. From the first of `ARGS` on, and
after `--`, nothing counts as an option any more.
-/

namespace ScriptHost

structure Invocation where
  file : String
  call? : Option (String × List String)
  seed? : Option UInt64
deriving DecidableEq, Repr

namespace Invocation

/-- What the words of a command have given so far, the arguments in reverse. -/
structure Draft where
  file? : Option String
  function? : Option String
  seed? : Option UInt64
  arguments : List String

namespace Draft

def empty : Draft := ⟨none, none, none, []⟩

def addWord (draft : Draft) (word : String) : Draft :=
  match draft.file? with
  | none => { draft with file? := some word }
  | some _ => { draft with arguments := word :: draft.arguments }

def addWords (draft : Draft) (words : List String) : Draft :=
  words.foldl addWord draft

def complete? (draft : Draft) : Option Invocation := do
  let file ← draft.file?
  match draft.function? with
  | some name => some ⟨file, some (name, draft.arguments.reverse), draft.seed?⟩
  | none => if draft.arguments.isEmpty then some ⟨file, none, draft.seed?⟩ else none

end Draft

/-- A number below `2 ^ 64`, with an optional plus sign. -/
def readSeed? (text : String) : Option UInt64 :=
  let digits := match text.toList with
    | '+' :: rest => rest
    | rest => rest
  let value := Decimal.natOfDigits digits
  if digits.isEmpty || !digits.all Char.isDigit || UInt64.size ≤ value then none
  else some (UInt64.ofNat value)

def setOption? (draft : Draft) (option value : String) : Option Draft :=
  match option with
  | "call" =>
      if draft.function?.isSome then none else some { draft with function? := some value }
  | "seed" =>
      if draft.seed?.isSome then none
      else (readSeed? value).map fun seed => { draft with seed? := some seed }
  | _ => none

inductive Form where
  | separator
  | option (name : String) (value? : Option String)
  /-- An option that does not exist, or an argument with a hyphen. -/
  | hyphened
  | plain

def optionNames : List String := ["call", "seed"]

def formOf (word : String) : Form :=
  match word.toList with
  | ['-', '-'] => .separator
  | '-' :: '-' :: rest =>
      let name := String.ofList (rest.takeWhile fun letter => letter != '=')
      let value? := match rest.dropWhile fun letter => letter != '=' with
        | _ :: value => some (String.ofList value)
        | [] => none
      if optionNames.contains name then .option name value? else .hyphened
  | '-' :: _ :: _ => .hyphened
  | _ => .plain

/-- Reads the words after those that a draft has been made of. -/
def read? (draft : Draft) : List String → Option Draft
  | [] => some draft
  | word :: rest =>
      match formOf word with
      | .separator => some (draft.addWords rest)
      | .option name (some value) => do read? (← setOption? draft name value) rest
      | .option name none =>
          match rest with
          | [] => none
          | value :: rest =>
              match formOf value with
              | .separator | .option _ _ => none
              | .hyphened =>
                  if draft.file?.isNone then none
                  else do read? (← setOption? draft name value) rest
              | .plain => do read? (← setOption? draft name value) rest
      | .hyphened => if draft.file?.isNone then none else some (draft.addWords (word :: rest))
      | .plain =>
          if draft.file?.isNone then read? (draft.addWord word) rest
          else some (draft.addWords (word :: rest))
termination_by words => words.length

/-- The command that the words make up, if they are well formed. -/
def ofWords? (words : List String) : Option Invocation := do
  let draft ← read? .empty words
  draft.complete?

end Invocation

/-- An argument of a command as a value: a constant, a number, or else a text. -/
def HostValue.ofWord (word : String) : HostValue :=
  match word with
  | "true" => .boolean true
  | "false" => .boolean false
  | "null" => .null
  | _ =>
      match Decimal.read? word with
      | some value => .number value
      | none => .text word

structure Report where
  lines : List String
  fault? : Option Fault

namespace Report

def output (report : Report) : String :=
  String.join (report.lines.map fun line => line ++ "\n")

def complaint (report : Report) : String :=
  match report.fault? with
  | some fault => fault.report ++ "\n"
  | none => ""

def exitCode (report : Report) : UInt32 :=
  if report.fault?.isSome then 1 else 0

def misuseCode : UInt32 := 2

end Report

namespace Invocation

open Session

def render (session : Session) (value : HostValue) : String :=
  match value with
  | .object handle =>
      match (Session.typeName handle).run session with
      | .ok name _ => "<" ++ name ++ " " ++ handle.text ++ ">"
      | .error _ _ => value.display
  | other => other.toJson

/-- Makes the session ready and runs the script in it. The lines printed are given in any case. -/
def runScript (file : SourceFile) : Action (List String × Option Fault) := do
  try
    Session.start
    Session.install Extension.math
    Session.runFile file
    return (← Session.takeOutput, none)
  catch fault =>
    return (← Session.takeOutput, some fault)

/-- Calls a function. The lines printed and the result are given if it succeeds. -/
def callFunction (name : String) (arguments : List String) :
    Action (List String × Option Fault) := do
  try
    let value ← Session.call name (arguments.map HostValue.ofWord)
    let lines ← Session.takeOutput
    return (lines ++ [render (← get) value], none)
  catch fault =>
    return ([], some fault)

def work (invocation : Invocation) (file : SourceFile) : Action Report := do
  let (lines, fault?) ← runScript file
  match fault?, invocation.call? with
  | none, some (name, arguments) =>
      let (more, fault?) ← callFunction name arguments
      return ⟨lines ++ more, fault?⟩
  | _, _ => return ⟨lines, fault?⟩

def execute (invocation : Invocation) (file : SourceFile) : Report :=
  let standard := Script.Configuration.standard
  let session := Session.create ⟨standard.limits, standard.strict, invocation.seed?⟩
  match (invocation.work file).run session with
  | .ok report _ => report
  | .error fault _ => ⟨[], some fault⟩

end Invocation
end ScriptHost
