import ScriptHost.Script.Term

/-!
Mistakes that show in the way a term is written.
-/

namespace ScriptHost.Script.Term

def neverBoolean : Term → Bool
  | .literal ⟨.datum (.boolean _), _⟩ _ => false
  | .literal .. | .interpolation .. | .list .. | .table .. => true
  | _ => false

def neverIterable : Term → Bool
  | .literal .. | .interpolation .. | .table .. => true
  | _ => false

def isWrittenOut : Term → Bool
  | .literal .. | .interpolation .. | .list .. | .table .. | .conjunction ..
  | .disjunction .. => true
  | _ => false

def neverIndexed (root key : Term) : Bool :=
  match key with
  | .literal ⟨.datum (.integer _), _⟩ _ =>
      match root with
      | .literal ⟨.datum (.integer _), _⟩ _ | .literal ⟨.datum (.text _), _⟩ _ => false
      | .literal .. | .table .. | .conjunction .. | .disjunction .. => true
      | _ => false
  | .literal ⟨.datum (.text _), _⟩ _ | .interpolation .. =>
      match root with
      | .literal .. | .list .. | .interpolation .. | .conjunction .. | .disjunction .. => true
      | _ => false
  | .literal .. | .conjunction .. | .disjunction .. => root.isWrittenOut
  | _ => false

end ScriptHost.Script.Term
