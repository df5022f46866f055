/-!
Handles, the names under which the host knows the instances of a session.
-/

namespace ScriptHost

/-- A slot of the heap together with the generation of its occupant. Two instances that use the
same slot one after the other differ in their generation. Both numbers are unbounded here. A
generation stays below `Handle.bound`, and so does the index in a heap with fewer slots than that:
only then does a handle fit the 32 bits that it has for each. -/
structure Handle where
  index : Nat
  generation : Nat
deriving DecidableEq, Repr, Inhabited

def Handle.bound : Nat := UInt32.size

def Handle.text (handle : Handle) : String :=
  "#" ++ handle.index.repr ++ "v" ++ handle.generation.repr

end ScriptHost
