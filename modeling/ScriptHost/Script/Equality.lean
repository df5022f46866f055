import ScriptHost.Script.Resolution

/-!
Equality of lists and tables.

Items are compared in order up to the first difference, by the functions that the host has for the
operator or else as plain data. Items of one type that nothing compares are a mistake.
-/

namespace ScriptHost.Script.Run

/-- Equality of values of which not both are lists or tables. What is no truth value does not
count as equality. -/
def sameLeaf (env : Environment) (position : Position) (left right : Value) : Run Bool := do
  let symbol := Operation.equal.symbol
  let request? := (Native.resolve? env symbol [left, right]).bind fun found =>
    found.request? [left, right]
  match request? with
  | some request =>
      native env request [] position
      let result := (← get).top
      modify Machine.drop
      match result with
      | .datum (.boolean same) => return same
      | _ => return false
  | none =>
      match Arithmetic.outcome .equal left right with
      | some (.ok (.boolean same)) => return same
      | _ => noFunction symbol [left, right] position

mutual

def sameValue (env : Environment) (position : Position) : Value → Value → Run Bool
  | .list left, .list right =>
      if left.size = right.size then sameArray env position left right else return false
  | .table left, .table right =>
      if left.length = right.length then sameEntries env position right left else return false
  | left, right => sameLeaf env position left right

def sameArray (env : Environment) (position : Position) : Array Value → Array Value → Run Bool
  | ⟨left⟩, right => sameItems env position right.toList left

def sameItems (env : Environment) (position : Position) (right : List Value) :
    List Value → Run Bool
  | [] => return true
  | item :: rest => do
      match right with
      | [] => return true
      | other :: others =>
          if ← sameValue env position item other then sameItems env position others rest
          else return false

def sameEntries (env : Environment) (position : Position) (right : List (String × Value)) :
    List (String × Value) → Run Bool
  | [] => return true
  | (name, value) :: rest => do
      match right.lookup name with
      | none => return false
      | some other =>
          if ← sameValue env position value other then sameEntries env position right rest
          else return false

end

end ScriptHost.Script.Run
