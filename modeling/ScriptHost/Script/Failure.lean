import ScriptHost.Script.Display
import ScriptHost.Script.Term

/-!
Failures of running scripts, and what the host is told about them.

A failure has a cause and a place, and it collects the calls that it passes on its way out. What a
script or a native callable throws is kept by the machine; a fault thrown by a native callable
reaches the host as it was raised. Limits cannot be caught.
-/

namespace ScriptHost.Script

inductive Problem where
  /-- The value is the last one thrown. -/
  | thrown
  | functionNotFound (signature : String)
  | propertyAccess (detail : String)
  | variableNotFound (name : String)
  | moduleNotFound (name : String)
  | propertyNotFound (name : String)
  | constantProperty (name : String)
  | constantVariable (name : String)
  | constantReceiver (method : String)
  | itemOutOfBounds (index : Int64) (size : Nat)
  | letterOutOfBounds (index : Int64) (size : Nat)
  | bitOutOfBounds (index : Int64)
  | noIndexer (detail : String)
  | arithmetic (detail : String)
  | mismatch (actual expected : String)
  | outputMismatch (actual expected : String)
  | notIterable
  | unboundReceiver
  | dataRace (argument : Nat) (function : String)
  | tooManyOperations
  | stackOverflow
  | textTooLong
  | listTooLong
  | tableTooLong
  | tooManyVariables
deriving DecidableEq, Repr, Inhabited

def boundsText (size : Nat) (noun whole : String) : String :=
  if size = 0 then whole ++ " is empty"
  else if size = 1 then "only 1 " ++ noun ++ " in " ++ whole
  else "only " ++ size.repr ++ " " ++ noun ++ "s in " ++ whole

def bitCount : Nat := 64

namespace Problem

def racingArgument (argument : Nat) (function : String) : String :=
  "argument #" ++ argument.repr ++ " of function '" ++ function ++ "'"

/-- `thrownText` is the text of the value thrown. -/
def message (thrownText : String) : Problem → String
  | thrown => if thrownText.isEmpty then "Runtime error" else "Runtime error: " ++ thrownText
  | functionNotFound signature => "Function not found: " ++ signature
  | propertyAccess detail => detail
  | variableNotFound name => "Variable not found: " ++ name
  | moduleNotFound name => "Module not found: " ++ name
  | propertyNotFound name => "Property not found: " ++ name
  | constantProperty name => "Cannot modify property '" ++ name ++ "' of constant"
  | constantVariable name => "Cannot modify constant " ++ name
  | constantReceiver method =>
      "Non-pure method '" ++ method ++ "' cannot be called on constant"
  | itemOutOfBounds index size =>
      "Array index " ++ toString index.toInt ++ " out of bounds: " ++
        boundsText size "element" "array"
  | letterOutOfBounds index size =>
      "String index " ++ toString index.toInt ++ " out of bounds: " ++
        boundsText size "character" "string"
  | bitOutOfBounds index =>
      "Bit-field index " ++ toString index.toInt ++ " out of bounds: only " ++ bitCount.repr ++
        " bits in bit-field"
  | noIndexer detail => "Indexer unavailable: " ++ detail
  | arithmetic detail => detail
  | mismatch actual expected =>
      "Data type incorrect: " ++ actual ++ " (expecting " ++ expected ++ ")"
  | outputMismatch actual expected =>
      "Output type incorrect: " ++ actual ++ " (expecting " ++ expected ++ ")"
  | notIterable => "For loop expects iterable type"
  | unboundReceiver => "'this' not bound"
  | dataRace argument function => "Data race detected on " ++ racingArgument argument function
  | tooManyOperations => "Too many operations"
  | stackOverflow => "Stack overflow"
  | textTooLong => "Length of string too large"
  | listTooLong => "Size of array/BLOB too large"
  | tableTooLong => "Size of object map too large"
  | tooManyVariables => "Too many variables defined"

def kind : Problem → String
  | thrown => "ErrorRuntime"
  | functionNotFound _ => "ErrorFunctionNotFound"
  | propertyAccess _ => "ErrorDotExpr"
  | variableNotFound _ => "ErrorVariableNotFound"
  | moduleNotFound _ => "ErrorModuleNotFound"
  | propertyNotFound _ => "ErrorPropertyNotFound"
  | constantProperty _ | constantReceiver _ => "ErrorNonPureMethodCallOnConstant"
  | constantVariable _ => "ErrorAssignmentToConstant"
  | itemOutOfBounds .. => "ErrorArrayBounds"
  | letterOutOfBounds .. => "ErrorStringBounds"
  | bitOutOfBounds _ => "ErrorBitFieldBounds"
  | noIndexer _ => "ErrorIndexingType"
  | arithmetic _ => "ErrorArithmetic"
  | mismatch .. => "ErrorMismatchDataType"
  | outputMismatch .. => "ErrorMismatchOutputType"
  | notIterable => "ErrorFor"
  | unboundReceiver => "ErrorUnboundThis"
  | dataRace .. => "ErrorDataRace"
  | tooManyOperations => "ErrorTooManyOperations"
  | stackOverflow => "ErrorStackOverflow"
  | textTooLong | listTooLong | tableTooLong => "ErrorDataTooLarge"
  | tooManyVariables => "ErrorTooManyVariables"

def details : Problem → List (String × Datum)
  | functionNotFound signature => [("function", .text signature)]
  | constantProperty name => [("function", .text ("set$" ++ name))]
  | constantReceiver method => [("function", .text method)]
  | propertyAccess detail => [("property", .text detail)]
  | variableNotFound name | propertyNotFound name | constantVariable name =>
      [("variable", .text name)]
  | dataRace argument function => [("variable", .text (racingArgument argument function))]
  | moduleNotFound name => [("module", .text name)]
  | itemOutOfBounds index size | letterOutOfBounds index size =>
      [("length", .integer (Int64.ofNat size)), ("index", .integer index)]
  | bitOutOfBounds index =>
      [("length", .integer (Int64.ofNat bitCount)), ("index", .integer index)]
  | noIndexer detail => [("type", .text detail)]
  | mismatch actual expected | outputMismatch actual expected =>
      [("requested", .text expected), ("actual", .text actual)]
  | _ => []

def isLimit : Problem → Bool
  | tooManyOperations | stackOverflow | textTooLong | listTooLong | tableTooLong
  | tooManyVariables => true
  | _ => false

end Problem

/-- `calls` are the functions that the failure has left, innermost first, each with the place of
its call. -/
structure Failure where
  problem : Problem
  position? : Option Position
  calls : List (String × Position)
deriving DecidableEq, Repr, Inhabited

namespace Failure

def located (problem : Problem) (position : Position) : Failure := ⟨problem, some position, []⟩

/-- How a call is named; closures have no name of their own. -/
def callText (name : String) : String :=
  if name.startsWith "anon$" then "closure call" else "call to function '" ++ name ++ "'"

def placeText (position : Position) : String :=
  " (" ++ position.text ++ ")"

def message (failure : Failure) (thrownText : String) : String :=
  let call (entry : String × Position) : String :=
    "\nin " ++ callText entry.1 ++ placeText entry.2
  failure.problem.message thrownText ++ (failure.position?.map placeText).getD "" ++
    String.join (failure.calls.map call)

def messageInside (failure : Failure) : String :=
  match failure.calls.getLast? with
  | none => failure.problem.message ""
  | some (name, _) =>
      let inner : Failure := ⟨failure.problem, failure.position?, failure.calls.dropLast⟩
      inner.message "" ++ "\nin " ++ callText name

def outermost? (failure : Failure) : Option Position :=
  match failure.calls.getLast? with
  | some (_, position) => some position
  | none => failure.position?

/-- What a handler is given of a failure that nobody has thrown. -/
def description (failure : Failure) : Literal :=
  let kind := match failure.calls.getLast? with
    | none => ("error", Datum.text failure.problem.kind) :: failure.problem.details
    | some (name, _) =>
        [("error", .text "ErrorInFunctionCall"), ("function", .text name), ("source", .text "")]
  let place := match failure.outermost? with
    | some position =>
        [("line", Datum.integer (Int64.ofNat position.line)),
         ("position", .integer (Int64.ofNat position.column))]
    | none => []
  let entries := ("message", Datum.text failure.messageInside) :: kind ++ place
  .table (entries.map fun entry => (entry.1, .datum entry.2))

/-- A failure on its way out of a function that was called from a script. A limit keeps no trace
of the calls but takes the place of the outermost one. -/
def leaving (failure : Failure) (name : String) (position : Position) : Failure :=
  if failure.problem.isLimit then
    ⟨failure.problem, some position, []⟩
  else
    ⟨failure.problem, failure.position?, failure.calls ++ [(name, position)]⟩

/-- A failure on its way out of a function that the host has called. Such a call has no place, so
a limit has none either. -/
def leavingToHost (failure : Failure) : Failure :=
  if failure.problem.isLimit then ⟨failure.problem, none, []⟩ else failure

end Failure

def splitAtPair (first second : Char) : List Char → Option (List Char × List Char)
  | [] => none
  | letter :: rest =>
      match rest with
      | next :: tail =>
          if letter = first ∧ next = second then
            some ([], tail)
          else
            (splitAtPair first second rest).map fun split => (letter :: split.1, split.2)
      | [] => none

def dropPrefix? : List Char → List Char → Option (List Char)
  | [], text => some text
  | letter :: rest, next :: text => if letter = next then dropPrefix? rest text else none
  | _ :: _, [] => none

/-- The function's name in the signature of a call that found none, if the first argument is a
native instance. -/
def memberOfObject? (signature : String) : Option String := do
  let (name, types) ← splitAtPair ' ' '(' signature.toList
  let types := (types.reverse.dropWhile fun letter => letter == ')').reverse
  let first := Text.trim (types.takeWhile fun letter => letter != ',')
  let first := (dropPrefix? "&mut ".toList first).getD first
  if first = Value.objectTypeName.toList then some (String.ofList (Text.trim name)) else none

/-- The property in a message about one that cannot be accessed, if the message ends with the
type of native instances. -/
def propertyOfObject? (detail : String) : Option String :=
  let ending := '\'' :: Value.objectTypeName.toList ++ ['\'']
  if ending.isSuffixOf detail.toList then
    match detail.toList.dropWhile fun letter => letter != '\'' with
    | _ :: rest =>
        if rest.contains '\'' then
          some (String.ofList (rest.takeWhile fun letter => letter != '\''))
        else
          none
    | [] => none
  else
    none

def memberFault (name : String) : Fault :=
  match dropPrefix? "get$".toList name.toList with
  | some field => .unknownField Value.objectTypeName (String.ofList field)
  | none =>
      match dropPrefix? "set$".toList name.toList with
      | some field => .unknownField Value.objectTypeName (String.ofList field)
      | none => .unknownMethod Value.objectTypeName name

namespace Failure

def runtimeFault (failure : Failure) (thrownText : String) : Fault :=
  .scriptRuntime (failure.message thrownText)
    (failure.outermost?.map fun position => "line " ++ position.line.repr)

/-- A missing member of a native instance has a fault of its own where no call stands between. -/
def memberFault? (failure : Failure) : Option Fault :=
  if failure.calls.isEmpty then
    match failure.problem with
    | .functionNotFound signature => (memberOfObject? signature).map memberFault
    | .propertyAccess detail =>
        (propertyOfObject? detail).map fun field =>
          .unknownField Value.objectTypeName field
    | _ => none
  else
    none

/-- The fault for the host. `thrown?` is the last value thrown. -/
def toFault (failure : Failure) (thrown? : Option Value) : Fault :=
  match failure.problem, thrown? with
  | .thrown, some (.datum (.fault fault)) => fault
  | .thrown, some value => failure.runtimeFault value.plain
  | _, _ => (failure.memberFault?).getD (failure.runtimeFault "")

end Failure
end ScriptHost.Script
