import ScriptHost.HostValue
import ScriptHost.Json.Reader

/-!
Host values and handles as JSON documents.

Values carry no tag: each kind has a document form of its own, a handle being an object with two
members. A handle may also be read from a list of its two parts. Numbers that are not finite have
no document form and are written as the absence of a value.
-/

namespace ScriptHost

namespace Json

def hexDigit (value : Nat) : Char :=
  if value < 10 then Char.ofNat ('0'.toNat + value) else Char.ofNat ('a'.toNat + (value - 10))

def escaped : Char → List Char
  | '"' => ['\\', '"']
  | '\\' => ['\\', '\\']
  | '\x08' => ['\\', 'b']
  | '\x0c' => ['\\', 'f']
  | '\n' => ['\\', 'n']
  | '\r' => ['\\', 'r']
  | '\t' => ['\\', 't']
  | letter =>
      if letter.toNat < 0x20 then
        ['\\', 'u', '0', '0', hexDigit (letter.toNat / 16), hexDigit (letter.toNat % 16)]
      else
        [letter]

def quote (value : String) : String :=
  String.ofList ('"' :: value.toList.flatMap escaped ++ ['"'])

/-- Positional from `0.00001` to below `1e16`, scientific outside. A tie goes to the even digit. -/
def ofFinite (value : Decimal.Dyadic) : String :=
  let numeral := value.shortest .toEven
  if -5 ≤ numeral.leading ∧ numeral.leading ≤ 15 then
    numeral.positional ".0"
  else
    numeral.scientific "+"

def ofFloat (number : Float) : String :=
  match Decimal.magnitude number with
  | .notANumber | .infinite => "null"
  | .zero => Decimal.signText number ++ "0.0"
  | .finite value => Decimal.signText number ++ ofFinite value

end Json

def JsonNumber.nearest (number : JsonNumber) : Float :=
  if number.negative then -number.written.nearest else number.written.nearest

def JsonNumber.finite? (number : JsonNumber) : Option Float :=
  if number.nearest.isFinite then some number.nearest else none

def JsonNumber.handlePart? (number : JsonNumber) : Option Nat :=
  let value := Decimal.natOfDigits number.written.whole
  if number.whole && !number.negative && value < Handle.bound then some value else none

namespace Handle

def toJson (handle : Handle) : String :=
  "\x7b\"index\":" ++ handle.index.repr ++ ",\"generation\":" ++ handle.generation.repr ++ "\x7d"

def membersNamed (name : String) (members : List (String × Json)) : List Json :=
  (members.filter fun member => member.1 == name).map Prod.snd

/-- Each part stands exactly once; other members do not matter. -/
def ofJson? : Json → Option Handle
  | .list [.number index, .number generation] => do
      return ⟨← index.handlePart?, ← generation.handlePart?⟩
  | .object members =>
      match membersNamed "index" members, membersNamed "generation" members with
      | [.number index], [.number generation] => do
          return ⟨← index.handlePart?, ← generation.handlePart?⟩
      | _, _ => none
  | _ => none

def read? (document : String) : Option Handle :=
  Json.readMembersNamed? ["index", "generation"] document >>= ofJson?

end Handle

namespace HostValue

def toJson : HostValue → String
  | number value => Json.ofFloat value
  | boolean value => if value then "true" else "false"
  | text value => Json.quote value
  | object handle => handle.toJson
  | null => "null"

def ofJson? : Json → Option HostValue
  | .null => some .null
  | .boolean value => some (.boolean value)
  | .number value => value.finite?.map .number
  | .text value => some (.text value)
  | document => (Handle.ofJson? document).map .object

end HostValue

namespace Json

mutual

def inRange : Json → Bool
  | .number value => value.nearest.isFinite
  | .list items => itemsInRange items
  | .object members => membersInRange members
  | _ => true

def itemsInRange : List Json → Bool
  | [] => true
  | item :: rest => inRange item && itemsInRange rest

def membersInRange : List (String × Json) → Bool
  | [] => true
  | (_, value) :: rest => inRange value && membersInRange rest

end

end Json

/-- A value is read as a whole document first, so a number out of range spoils it even in a member
that would not matter. -/
def HostValue.read? (document : String) : Option HostValue := do
  let json ← Json.read? document
  if json.inRange then HostValue.ofJson? json else none

end ScriptHost
