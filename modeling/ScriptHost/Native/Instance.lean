import ScriptHost.Numeric.Vector3

/-!
Instances of host types.

A host type is identified by its name together with the form of what its instances hold. The host
type decides how an instance may be used; the names that scripts know a type by come later, with
its description.
-/

namespace ScriptHost

inductive Shape where
  | values
  | number
  | vector
  | empty
deriving DecidableEq, Repr, Inhabited

def Shape.Content : Shape → Type
  | values => List HostValue
  | number => Float
  | vector => Vector3
  | empty => Unit

structure HostType where
  name : String
  shape : Shape
deriving DecidableEq, Repr, Inhabited

abbrev HostType.Content (type : HostType) : Type := type.shape.Content

structure Instance where
  type : HostType
  content : type.Content

def Instance.as? (body : Instance) (type : HostType) : Option type.Content :=
  if same : body.type = type then some (same ▸ body.content) else none

/-- The number under which a session has registered a type, counted from zero. -/
abbrev TypeId := Nat

structure Occupant where
  typeId : TypeId
  body : Instance

end ScriptHost
