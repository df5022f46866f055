/-!
Limits on what scripts may do, and the choices made for a session. A limit of zero is no limit.
-/

namespace ScriptHost.Script

structure Limits where
  operations : Nat
  callLevels : Nat
  expressionDepth : Nat
  functionExpressionDepth : Nat
  textSize : Nat
  listSize : Nat
  tableSize : Nat
  scopeSize : Nat
  functions : Nat
  modules : Nat
deriving DecidableEq, Repr

def Limits.standard : Limits where
  operations := 1000000
  callLevels := 64
  expressionDepth := 64
  functionExpressionDepth := 32
  textSize := 1000000
  listSize := 100000
  tableSize := 100000
  scopeSize := 10000
  functions := 1000
  modules := 10

instance : Inhabited Limits := ⟨Limits.standard⟩

def Limits.allows (limit amount : Nat) : Bool :=
  limit == 0 || amount ≤ limit

/-- In a strict session a script that mentions an unknown variable or module cannot be read. The
seed of the random numbers is zero where none is chosen. -/
structure Configuration where
  limits : Limits
  strict : Bool
  seed? : Option UInt64
deriving Repr

def Configuration.standard : Configuration := ⟨.standard, true, none⟩

instance : Inhabited Configuration := ⟨Configuration.standard⟩

end ScriptHost.Script
