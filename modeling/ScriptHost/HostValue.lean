import ScriptHost.Decimal.Notation
import ScriptHost.Fault

/-!
Values as host code sees them: numbers, booleans, texts, handles and the absence of a value.
-/

namespace ScriptHost

inductive HostValue where
  | number (value : Float)
  | boolean (value : Bool)
  | text (value : String)
  | object (handle : Handle)
  | null
deriving Repr, Inhabited

namespace HostValue

def kind : HostValue → Kind
  | number _ => .number
  | boolean _ => .boolean
  | text _ => .text
  | object _ => .object
  | null => .null

/-- Equality of the values meant: a number that is not a number differs from itself, and the two
zeros are the same. -/
def same : HostValue → HostValue → Bool
  | number left, number right => left == right
  | boolean left, boolean right => left == right
  | text left, text right => left == right
  | object left, object right => left == right
  | null, null => true
  | _, _ => false

def display : HostValue → String
  | number value => Decimal.plain value
  | boolean value => if value then "true" else "false"
  | text value => value
  | object handle => handle.text
  | null => "null"

def expectKind (value : HostValue) (expected : Kind) : Except Fault Unit :=
  if expected.accepts value.kind then
    .ok ()
  else
    .error (.typeMismatch expected value.kind.name)

def asNumber : HostValue → Except Fault Float
  | number value => .ok value
  | other => .error (.typeMismatch .number other.kind.name)

def asBoolean : HostValue → Except Fault Bool
  | boolean value => .ok value
  | other => .error (.typeMismatch .boolean other.kind.name)

def asText : HostValue → Except Fault String
  | text value => .ok value
  | other => .error (.typeMismatch .text other.kind.name)

def asObject : HostValue → Except Fault Handle
  | object handle => .ok handle
  | other => .error (.typeMismatch .object other.kind.name)

def isNull : HostValue → Bool
  | null => true
  | _ => false

end HostValue
end ScriptHost
