import ScriptHost.Decimal.Integer
import ScriptHost.Heap
import ScriptHost.Native.Instance
import ScriptHost.Script.Value

/-!
The passage of values between scripts and hosts.

Lists, tables, characters and functions have no host form. An integer has one only if it is a
double without rounding. An instance crosses as its handle, which must be live; on the way into a
script it becomes a reference that the heap counts.
-/

namespace ScriptHost

open Script

namespace Script.Value

def toHost? : Value → Option HostValue
  | datum .unit => some .null
  | datum (.boolean value) => some (.boolean value)
  | datum (.float value) => some (.number value)
  | datum (.integer value) => (Decimal.exactFloat? value.toInt).map .number
  | datum (.text value) => some (.text value)
  | object reference => some (.object reference.handle)
  | _ => none

def foreignName : Value → String
  | datum (.integer value) =>
      "integer " ++ toString value.toInt ++ " (not exactly representable)"
  | other => other.hostTypeName

/-- The host form of a value that a host callable expects to be of some kind. -/
def toHost (heap : Heap Occupant) (expected : Kind) (value : Value) :
    Except Fault HostValue :=
  match value.toHost? with
  | none => .error (.typeMismatch expected value.foreignName)
  | some host =>
      if expected.accepts host.kind then
        match host with
        | .object handle =>
            if heap.contains handle then .ok host else .error (.staleHandle handle)
        | _ => .ok host
      else
        .error (.typeMismatch expected host.kind.name)

end Script.Value

namespace HostValue

def toScript (heap : Heap Occupant) : HostValue → Except Fault (Value × Heap Occupant)
  | number value => .ok (.datum (.float value), heap)
  | boolean value => .ok (.datum (.boolean value), heap)
  | text value => .ok (.datum (.text value), heap)
  | null => .ok (.unit, heap)
  | object handle =>
      match heap.resident? handle with
      | none => .error (.staleHandle handle)
      | some resident =>
          match heap.anchor handle with
          | .ok anchored => .ok (.object ⟨handle, resident.content.typeId⟩, anchored)
          | .error fault => .error fault

end HostValue
end ScriptHost
