import ScriptHost.Handle
import ScriptHost.Kind

/-!
Faults: everything that can go wrong at the boundary between host and script.

A fault is a cause. Its wording is given once, by `Fault.message`; only script faults carry a
location.
-/

namespace ScriptHost

inductive Fault where
  | typeMismatch (expected : Kind) (found : String)
  | arityMismatch (callable expected : String) (got : Nat)
  | duplicateType (name : String)
  | duplicateFunction (space name : String)
  | unsupportedOperator (typeName operator operands : String)
  | unknownMethod (typeName method : String)
  /-- The type has no such field, or the field cannot be written. -/
  | unknownField (typeName field : String)
  | staleHandle (handle : Handle)
  | domain (detail : String)
  | undefinedFunction (name : String)
  | scriptRuntime (detail : String) (location : Option String)
  | parse (detail : String) (location : Option String)
  | sessionClosed
  | notInitialized
  | invalidState (detail : String)
  | io (detail : String)
deriving DecidableEq, Repr, Inhabited

namespace Fault

def message : Fault → String
  | typeMismatch expected found =>
      "Type mismatch: expected " ++ expected.name ++ ", found " ++ found
  | arityMismatch callable expected got =>
      "Arity mismatch for '" ++ callable ++ "': expected " ++ expected ++ " argument(s), got " ++
        got.repr
  | duplicateType name => "Duplicate type: " ++ name
  | duplicateFunction space name =>
      "Duplicate function '" ++ name ++ "' in namespace '" ++ space ++ "'"
  | unsupportedOperator typeName operator operands =>
      "Unsupported operator '" ++ operator ++ "' for " ++ typeName ++ " (" ++ operands ++ ")"
  | unknownMethod typeName method => "Unknown method '" ++ method ++ "' on " ++ typeName
  | unknownField typeName field => "Unknown field '" ++ field ++ "' on " ++ typeName
  | staleHandle handle => "Stale handle: " ++ handle.text
  | domain detail => "Domain error: " ++ detail
  | undefinedFunction name => "Undefined function: " ++ name
  | scriptRuntime detail _ => "Script error: " ++ detail
  | parse detail _ => "Parse error: " ++ detail
  | sessionClosed => "Session closed"
  | notInitialized => "Session not initialized"
  | invalidState detail => "Invalid session state: " ++ detail
  | io detail => "IO error: " ++ detail

/-- A short name for the class of a fault, the same for all faults with one cause. -/
def category : Fault → String
  | typeMismatch .. => "type_mismatch"
  | arityMismatch .. => "arity_mismatch"
  | duplicateType .. => "duplicate_type"
  | duplicateFunction .. => "duplicate_function"
  | unsupportedOperator .. => "unsupported_operator"
  | unknownMethod .. => "unknown_method"
  | unknownField .. => "unknown_field"
  | staleHandle .. => "stale_handle"
  | domain .. => "domain"
  | undefinedFunction .. => "undefined_function"
  | scriptRuntime .. => "runtime"
  | parse .. => "parse"
  | sessionClosed => "session_closed"
  | notInitialized => "not_initialized"
  | invalidState .. => "invalid_state"
  | io .. => "io"

def location : Fault → Option String
  | scriptRuntime _ location => location
  | parse _ location => location
  | _ => none

def report (fault : Fault) : String :=
  match fault.location with
  | some location => fault.message ++ " (" ++ location ++ ")"
  | none => fault.message

end Fault
end ScriptHost
