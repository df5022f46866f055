import ScriptHost.HostValue

/-!
Script values.

Plain data refers to nothing. References to instances occur inside lists, tables and the variables
that closures share, so every value has a list of the references it holds, in the order in which
they are given up when the value goes away.
-/

namespace ScriptHost.Script

/-- Values that refer to nothing. -/
inductive Datum where
  | unit
  | boolean (value : Bool)
  | integer (value : Int64)
  | float (value : Float)
  | text (value : String)
  | letter (value : Char)
  | range (first last : Int64) (inclusive : Bool)
  | fault (value : Fault)
deriving Repr, Inhabited

/-- A reference to an instance, with the type that it was registered under. -/
structure Reference where
  handle : Handle
  typeId : Nat
deriving DecidableEq, Repr, Inhabited

/-- `shared` stands for a variable that a closure has captured; its content is in a cell of the
machine. The names of a table are in order, each once. A function has arguments bound to it, which
come before those of a call. -/
inductive Value where
  | datum (value : Datum)
  | object (reference : Reference)
  | list (items : Array Value)
  | table (entries : List (String × Value))
  | function (name : String) (bound : List Value)
  | shared (cell : Nat)
deriving Repr

/-- What a value holds on to. -/
inductive Holding where
  | object (reference : Reference)
  | cell (index : Nat)
deriving DecidableEq, Repr

namespace Value

instance : Inhabited Value := ⟨.datum .unit⟩

abbrev unit : Value := .datum .unit

mutual

/-- Everything the value holds on to, once for each occurrence. -/
def holdings : Value → List Holding
  | datum _ => []
  | object reference => [.object reference]
  | list items => arrayHoldings items
  | table entries => entryHoldings entries
  | function _ bound => itemHoldings bound
  | shared cell => [.cell cell]

def arrayHoldings : Array Value → List Holding
  | ⟨items⟩ => itemHoldings items

def itemHoldings : List Value → List Holding
  | [] => []
  | item :: rest => item.holdings ++ itemHoldings rest

def entryHoldings : List (String × Value) → List Holding
  | [] => []
  | (_, value) :: rest => value.holdings ++ entryHoldings rest

end

def objectTypeName : String := "NativeObject"

end Value

def Datum.typeName : Datum → String
  | unit => "()"
  | boolean _ => "bool"
  | integer _ => "i64"
  | float _ => "f64"
  | text _ => "string"
  | letter _ => "char"
  | range _ _ false => "range"
  | range _ _ true => "range="
  | fault _ => "scriptbridge::error::BridgeError"

def Value.typeName : Value → String
  | datum value => value.typeName
  | object _ => objectTypeName
  | list _ => "array"
  | table _ => "map"
  | function .. => "Fn"
  | shared _ => "shared"

/-- The name of the type in the host's own language, where scripts know it under another one. -/
def Value.hostTypeName : Value → String
  | object _ => "scriptbridge::marshal::ScriptObject"
  | datum (.range _ _ false) => "core::ops::range::Range<i64>"
  | datum (.range _ _ true) => "core::ops::range::RangeInclusive<i64>"
  | other => other.typeName

def Value.signatureName (value : Value) : String :=
  match value with
  | datum (.text _) => "&str | ImmutableString | String"
  | other => other.typeName

/-- Lengths that a script value adds up to: list items, table entries and bytes of text. -/
structure Extent where
  items : Nat
  entries : Nat
  bytes : Nat
deriving DecidableEq, Repr, Inhabited

def Extent.add (left right : Extent) : Extent :=
  ⟨left.items + right.items, left.entries + right.entries, left.bytes + right.bytes⟩

namespace Value

def isFunction : Value → Bool
  | function .. => true
  | _ => false

def isPlain : Value → Bool
  | datum (.text _) | list _ | table _ => false
  | _ => true

mutual

def extent : Value → Extent
  | datum (.text value) => ⟨0, 0, value.utf8ByteSize⟩
  | list items => if items.all isPlain then ⟨items.size, 0, 0⟩ else arrayExtent items
  | table entries => entryExtent ⟨0, 0, 0⟩ entries
  | _ => ⟨0, 0, 0⟩

def arrayExtent : Array Value → Extent
  | ⟨items⟩ => itemExtent ⟨0, 0, 0⟩ items

def itemExtent (total : Extent) : List Value → Extent
  | [] => total
  | item :: rest => itemExtent ((total.add ⟨1, 0, 0⟩).add item.extent) rest

def entryExtent (total : Extent) : List (String × Value) → Extent
  | [] => total
  | (_, value) :: rest => entryExtent ((total.add ⟨0, 1, 0⟩).add value.extent) rest

end

def insertEntry (name : String) (value : Value) : List (String × Value) → List (String × Value)
  | [] => [(name, value)]
  | (other, held) :: rest =>
      if name < other then (name, value) :: (other, held) :: rest
      else if name = other then (name, value) :: rest
      else (other, held) :: insertEntry name value rest

def alterEntry (name : String) (change : Value → Value) :
    List (String × Value) → List (String × Value)
  | [] => []
  | (other, held) :: rest =>
      if other = name then (other, change held) :: rest
      else (other, held) :: alterEntry name change rest

/-- Puts entries into a table. The values that stood under their names before are given too. -/
def mergeEntries : List (String × Value) → List (String × Value) →
    List (String × Value) × List Value
  | [], held => (held, [])
  | (name, value) :: rest, held =>
      match held.lookup name with
      | some old =>
          let (merged, replaced) := mergeEntries rest (alterEntry name (fun _ => value) held)
          (merged, old :: replaced)
      | none => mergeEntries rest (insertEntry name value held)

theorem entryHoldings_insertEntry_eq_nil {name : String} {value : Value}
    {entries : List (String × Value)} (valueFree : value.holdings = [])
    (entriesFree : entryHoldings entries = []) :
    entryHoldings (insertEntry name value entries) = [] := by
  induction entries with
  | nil => simp [insertEntry, entryHoldings, valueFree]
  | cons entry rest ih =>
      obtain ⟨entryFree, restFree⟩ := List.append_eq_nil_iff.mp entriesFree
      unfold insertEntry
      split
      · simp [entryHoldings, valueFree, entryFree, restFree]
      · split
        · simp [entryHoldings, valueFree, restFree]
        · simp [entryHoldings, entryFree, ih restFree]

end Value

/-- A value that holds on to nothing, as a script can write it out. -/
structure Literal where
  value : Value
  free : value.holdings = []

namespace Literal

def datum (value : Datum) : Literal := ⟨.datum value, rfl⟩

def unit : Literal := datum .unit

instance : Inhabited Literal := ⟨unit⟩

def function (name : String) : Literal := ⟨.function name [], rfl⟩

theorem itemHoldings_values (items : List Literal) :
    Value.itemHoldings (items.map value) = [] := by
  induction items with
  | nil => rfl
  | cons item rest ih => simp [Value.itemHoldings, item.free, ih]

def list (items : List Literal) : Literal :=
  ⟨.list (items.map value).toArray, itemHoldings_values items⟩

/-- The entries of a table, of which a later one takes the place of an earlier one. -/
def entries (named : List (String × Literal)) : List (String × Value) :=
  named.foldl (fun held entry => Value.insertEntry entry.1 entry.2.value held) []

theorem entryHoldings_entries (named : List (String × Literal)) :
    Value.entryHoldings (entries named) = [] := by
  suffices kept : ∀ held, Value.entryHoldings held = [] → Value.entryHoldings
      (named.foldl (fun held entry => Value.insertEntry entry.1 entry.2.value held) held) = [] from
    kept [] rfl
  induction named with
  | nil => exact fun _ free => free
  | cons entry rest ih =>
      intro held free
      exact ih _ (Value.entryHoldings_insertEntry_eq_nil entry.2.free free)

def table (named : List (String × Literal)) : Literal :=
  ⟨.table (entries named), entryHoldings_entries named⟩

end Literal
end ScriptHost.Script
