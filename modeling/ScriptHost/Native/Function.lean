import ScriptHost.Native.TypeDescriptor

/-!
Native functions, which scripts call by name.
-/

namespace ScriptHost

/-- The most arguments that a script can hand to a native callable. -/
def argumentLimit : Nat := 6

inductive Parameters where
  | fixed (kinds : List Kind)
  | variadic
deriving DecidableEq, Repr, Inhabited

def Parameters.text : Parameters → String
  | fixed kinds => kinds.length.repr
  | variadic => "0 to " ++ argumentLimit.repr

structure FunctionDescriptor where
  name : String
  parameters : Parameters
  body : List HostValue → Routine HostValue

namespace FunctionDescriptor

def fixed (name : String) (kinds : List Kind) (body : List HostValue → Routine HostValue) :
    FunctionDescriptor :=
  ⟨name, .fixed kinds, body⟩

def variadic (name : String) (body : List HostValue → Routine HostValue) : FunctionDescriptor :=
  ⟨name, .variadic, body⟩

end FunctionDescriptor
end ScriptHost
