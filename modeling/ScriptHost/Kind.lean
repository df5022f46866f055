/-!
Kinds of values at the boundary, as parameters and fields declare them.
-/

namespace ScriptHost

/-- What a parameter or a field accepts. `any` is never the kind of a value. -/
inductive Kind where
  | number
  | boolean
  | text
  | object
  | null
  | any
deriving DecidableEq, Repr, Inhabited

namespace Kind

def accepts (expected found : Kind) : Bool :=
  expected == .any || expected == found

def name : Kind → String
  | number => "number"
  | boolean => "boolean"
  | text => "string"
  | object => "object"
  | null => "null"
  | any => "any"

def title : Kind → String
  | number => "Number"
  | boolean => "Boolean"
  | text => "String"
  | object => "Object"
  | null => "Null"
  | any => "Any"

end Kind
end ScriptHost
