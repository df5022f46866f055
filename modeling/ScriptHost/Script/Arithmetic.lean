import ScriptHost.Script.Failure

/-!
Operators on plain data.

Integers have 64 bits and never wrap. Between an integer and a float the integer becomes a float.
Floats are compared with a tolerance of one unit in the last place. Data of different types are
unequal and in no order.
-/

namespace ScriptHost.Script

/-- The result of an operator, or `none` where the operands do not have it. -/
abbrev Outcome := Option (Except Problem Datum)

namespace Arithmetic

def value (datum : Datum) : Outcome := some (.ok datum)

def boolean (truth : Bool) : Outcome := value (.boolean truth)

def problem (detail : String) : Outcome := some (.error (.arithmetic detail))

def fits (result : Int) : Bool :=
  Int64.minValue.toInt ≤ result && result ≤ Int64.maxValue.toInt

def termText (left : Int64) (operation : Operation) (right : Int64) : String :=
  toString left.toInt ++ " " ++ operation.symbol ++ " " ++ toString right.toInt

def exact (result : Int) (failing : String) : Outcome :=
  if fits result then value (.integer (Int64.ofInt result)) else problem failing

def shift (left : Int64) (places : Int) : Int64 :=
  if 64 ≤ places then 0
  else if 0 ≤ places then left <<< Int64.ofInt places
  else if -64 < places then left >>> Int64.ofInt (-places)
  else if left < 0 then -1
  else 0

def integers (operation : Operation) (left right : Int64) : Outcome :=
  let text := termText left operation right
  match operation with
  | .add => exact (left.toInt + right.toInt) ("Addition overflow: " ++ text)
  | .subtract => exact (left.toInt - right.toInt) ("Subtraction overflow: " ++ text)
  | .multiply => exact (left.toInt * right.toInt) ("Multiplication overflow: " ++ text)
  | .divide =>
      if right = 0 then problem ("Division by zero: " ++ text)
      else exact (left.toInt.tdiv right.toInt) ("Division overflow: " ++ text)
  | .remainder =>
      if right = 0 || (left = Int64.minValue && right = -1) then
        problem ("Modulo division by zero or overflow: " ++ text)
      else
        exact (left.toInt.tmod right.toInt) text
  | .equal => boolean (left == right)
  | .notEqual => boolean (left != right)
  | .less => boolean (left < right)
  | .lessEqual => boolean (left ≤ right)
  | .greater => boolean (right < left)
  | .greaterEqual => boolean (right ≤ left)
  | .bitAnd => value (.integer (left &&& right))
  | .bitOr => value (.integer (left ||| right))
  | .bitXor => value (.integer (left ^^^ right))
  | .shiftLeft => value (.integer (shift left right.toInt))
  | .shiftRight => value (.integer (shift left (-right.toInt)))
  | .range => value (.range left right false)
  | .inclusiveRange => value (.range left right true)

def tolerance : Float := Float.ofBits 0x3cb0000000000000

/-- The larger one; what is not a number gives way. -/
def larger (left right : Float) : Float :=
  if left.isNaN then right else if right.isNaN then left
  else if left < right then right else left

/-- The distance from `right` up to `left`, relative to the larger one. -/
def distance (left right : Float) : Float :=
  let scale := if left * right == 0.0 then 1.0 else larger left.abs right.abs
  (left - right) / scale

/-- What remains of `left` after as many whole multiples of `right` as it holds, with the sign of
`left`. The result is exact. -/
def remainder (left right : Float) : Float :=
  match Decimal.magnitude left, Decimal.magnitude right with
  | .finite size, .finite unit =>
      if left.abs < right.abs then
        left
      else
        let scale := Nat.pow 2 (size.exponent - unit.exponent).toNat
        let rest := size.mantissa * scale % unit.mantissa
        let result := (Float.ofNat rest).scaleB unit.exponent
        if Decimal.hasMinus left then -result else result
  | .zero, .finite _ | .zero, .infinite | .finite _, .infinite => left
  | _, _ => 0.0 / 0.0

def floats (operation : Operation) (left right : Float) : Outcome :=
  match operation with
  | .add => value (.float (left + right))
  | .subtract => value (.float (left - right))
  | .multiply => value (.float (left * right))
  | .divide => value (.float (left / right))
  | .remainder => value (.float (remainder left right))
  | .equal => boolean ((distance left right).abs ≤ tolerance)
  | .notEqual => boolean ((distance left right).abs > tolerance)
  | .less => boolean (distance right left > tolerance)
  | .lessEqual => boolean (distance right left > -tolerance)
  | .greater => boolean (distance left right > tolerance)
  | .greaterEqual => boolean (distance left right > -tolerance)
  | _ => none

def booleans (operation : Operation) (left right : Bool) : Outcome :=
  match operation with
  | .equal => boolean (left == right)
  | .notEqual => boolean (left != right)
  | .less => boolean (!left && right)
  | .lessEqual => boolean (!left || right)
  | .greater => boolean (left && !right)
  | .greaterEqual => boolean (left || !right)
  | .bitAnd => boolean (left && right)
  | .bitOr => boolean (left || right)
  | .bitXor => boolean (left != right)
  | _ => none

def without (text taken : String) : String :=
  if taken.isEmpty then text
  else if text.isEmpty then taken
  else text.replace taken ""

def texts (operation : Operation) (left right : String) : Outcome :=
  match operation with
  | .add => value (.text (left ++ right))
  | .subtract => value (.text (without left right))
  | .equal => boolean (left == right)
  | .notEqual => boolean (left != right)
  | .less => boolean (left < right)
  | .lessEqual => boolean (!(right < left))
  | .greater => boolean (right < left)
  | .greaterEqual => boolean (!(left < right))
  | _ => none

/-- The first two characters of a text, filled up with the null character: a character compares
with a text as if the text had no more. -/
def firstTwo (text : String) : String :=
  match text.toList with
  | [] => String.ofList ['\x00', '\x00']
  | [first] => String.ofList [first, '\x00']
  | first :: second :: _ => String.ofList [first, second]

def letterText (operation : Operation) (left right : String) : Outcome :=
  match operation with
  | .add => value (.text (left ++ right))
  | .subtract => none
  | other => texts other (firstTwo left) (firstTwo right)

def textLetter (operation : Operation) (left : String) (right : Char) : Outcome :=
  match operation with
  | .subtract => value (.text (String.ofList (left.toList.filter fun letter => letter != right)))
  | other => letterText other left right.toString

def letters (operation : Operation) (left right : Char) : Outcome :=
  match operation with
  | .subtract => none
  | other => texts other left.toString right.toString

def units (operation : Operation) : Outcome :=
  match operation with
  | .equal => boolean true
  | .notEqual | .less | .lessEqual | .greater | .greaterEqual => boolean false
  | _ => none

def unlike (operation : Operation) : Outcome :=
  match operation with
  | .notEqual => boolean true
  | .equal | .less | .lessEqual | .greater | .greaterEqual => boolean false
  | _ => none

def ranges (operation : Operation) (same : Bool) : Outcome :=
  match operation with
  | .equal => boolean same
  | .notEqual => boolean !same
  | _ => none

/-- An operator between two data. Joining a text with something else is not decided here. -/
def apply (operation : Operation) (left right : Datum) : Outcome :=
  match left, right with
  | .integer left, .integer right => integers operation left right
  | .float left, .float right => floats operation left right
  | .integer left, .float right => floats operation (Float.ofInt left.toInt) right
  | .float left, .integer right => floats operation left (Float.ofInt right.toInt)
  | .boolean left, .boolean right => booleans operation left right
  | .text left, .text right => texts operation left right
  | .letter left, .letter right => letters operation left right
  | .letter left, .text right => letterText operation left.toString right
  | .text left, .letter right => textLetter operation left right
  | .unit, .unit => units operation
  | .range first last false, .range start finish false =>
      ranges operation (first == start && last == finish)
  | .range first last true, .range start finish true =>
      ranges operation (first == start && last == finish)
  | .fault _, .fault _ => none
  | _, _ => unlike operation

/-- An operator between two values that are no instances. Lists, tables and functions have none of
their own. -/
def outcome (operation : Operation) (left right : Value) : Outcome :=
  match left, right with
  | .datum left, .datum right => apply operation left right
  | .object _, _ | _, .object _ => none
  | left, right => if left.typeName == right.typeName then none else unlike operation

def negate (operand : Datum) : Except Problem Datum :=
  match operand with
  | .integer operand =>
      if fits (-operand.toInt) then .ok (.integer (-operand))
      else .error (.arithmetic "integer overflow")
  | .float operand => .ok (.float (-operand))
  | other => .ok other

def complement : Datum → Datum
  | .boolean operand => .boolean !operand
  | other => other

end Arithmetic
end ScriptHost.Script
