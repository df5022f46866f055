/-!
Reading decimal texts as the nearest double.

A number is a sign, digits with at most one point and at least one digit, and an optional
exponent. The names `inf`, `infinity` and `nan` are read in any case.
-/

namespace ScriptHost.Decimal

def digitValue (digit : Char) : Nat :=
  digit.toNat - '0'.toNat

def natOfDigits (digits : List Char) : Nat :=
  digits.foldl (fun total digit => 10 * total + digitValue digit) 0

/-- The double nearest to `digits * 10 ^ exponent`. Numbers far outside the range of doubles are
settled by their size, so the powers of ten computed stay small. -/
def nearest (digits : Nat) (exponent : Int) : Float :=
  let size := (digits.repr.length : Int) + exponent
  if digits = 0 then 0.0
  else if 400 < size then 1.0 / 0.0
  else if size < -400 then 0.0
  else if 0 ≤ exponent then Float.ofScientific digits false exponent.toNat
  else Float.ofScientific digits true (-exponent).toNat

structure Written where
  whole : List Char
  fraction : List Char
  exponent : Int
deriving DecidableEq, Repr

def Written.nearest (written : Written) : Float :=
  Decimal.nearest (natOfDigits (written.whole ++ written.fraction))
    (written.exponent - written.fraction.length)

def readExponent? (text : List Char) : Option Int :=
  let magnitude? (digits : List Char) : Option Nat :=
    if digits.isEmpty || !digits.all Char.isDigit then none else some (natOfDigits digits)
  match text with
  | '-' :: digits => (magnitude? digits).map fun value => -(value : Int)
  | '+' :: digits => (magnitude? digits).map fun value => (value : Int)
  | digits => (magnitude? digits).map fun value => (value : Int)

def readWritten? (text : List Char) : Option Written :=
  let whole := text.takeWhile Char.isDigit
  let afterWhole := text.dropWhile Char.isDigit
  let (fraction, rest) := match afterWhole with
    | '.' :: tail => (tail.takeWhile Char.isDigit, tail.dropWhile Char.isDigit)
    | _ => ([], afterWhole)
  if whole.isEmpty && fraction.isEmpty then none
  else match rest with
    | [] => some ⟨whole, fraction, 0⟩
    | 'e' :: tail | 'E' :: tail =>
        (readExponent? tail).map fun exponent => ⟨whole, fraction, exponent⟩
    | _ => none

def readUnsigned? (text : List Char) : Option Float :=
  match String.ofList (text.map Char.toLower) with
  | "inf" | "infinity" => some (1.0 / 0.0)
  | "nan" => some (0.0 / 0.0)
  | _ => (readWritten? text).map Written.nearest

def read? (text : String) : Option Float :=
  match text.toList with
  | '-' :: rest => (readUnsigned? rest).map fun number => -number
  | '+' :: rest => readUnsigned? rest
  | rest => readUnsigned? rest

end ScriptHost.Decimal
