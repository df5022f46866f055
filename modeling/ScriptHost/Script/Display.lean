import ScriptHost.Decimal.Notation
import ScriptHost.Script.Value
import ScriptHost.Text.Hidden

/-!
The text of script values.

On its own a value is written plainly: a text is itself and the absence of a value is nothing.
Inside a list or a table texts are quoted, so that the structure stays readable. Where no function
is asked for the text of a value, letters inside are quoted as well.
-/

namespace ScriptHost.Script

/-- Between these sizes a float on its own is written without an exponent. -/
def plainLimit : Float := 9999999827968.0

def plainLeast : Float := Float.ofBits 0x3d3c25c260000000

/-- An integral float shows that it is one; very large and very small ones have an exponent. -/
def floatText (number : Float) : String :=
  let size := number.abs
  match Decimal.magnitude number with
  | .notANumber => "NaN"
  | .zero => "0.0"
  | .infinite => Decimal.signText number ++ "inf"
  | .finite value =>
      if size > plainLimit || size < plainLeast then
        Decimal.signText number ++ (value.shortest .upward).scientific ""
      else
        Decimal.signText number ++ (value.shortest .upward).positional ".0"

/-- A float inside a list or a table: at least one digit after the point, the sign also of zero,
and an exponent below `1e-4` and from `1e16` on. -/
def nestedFloatText (number : Float) : String :=
  let size := number.abs
  match Decimal.magnitude number with
  | .notANumber => "NaN"
  | .zero => Decimal.signText number ++ "0.0"
  | .infinite => Decimal.signText number ++ "inf"
  | .finite value =>
      if size ≥ 1e16 || size < 1e-4 then
        Decimal.signText number ++ (value.shortest .upward).scientific ""
      else
        Decimal.signText number ++ (value.shortest .upward).positional ".0"

def escapedLetter (quote letter : Char) : List Char :=
  if letter = quote then ['\\', quote]
  else if letter = '\\' then ['\\', '\\']
  else if letter = '\n' then ['\\', 'n']
  else if letter = '\r' then ['\\', 'r']
  else if letter = '\t' then ['\\', 't']
  else if letter = '\x00' then ['\\', '0']
  else if Text.isHidden letter then
    '\\' :: 'u' :: '\x7b' :: Nat.toDigits 16 letter.toNat ++ ['\x7d']
  else [letter]

def quoted (value : String) : String :=
  String.ofList ('"' :: value.toList.flatMap (escapedLetter '"') ++ ['"'])

def quotedLetter (letter : Char) : String :=
  String.ofList ('\'' :: escapedLetter '\'' letter ++ ['\''])

/-- A range that goes on to the last integer shows no end. -/
def rangeText (first last : Int64) (inclusive : Bool) : String :=
  toString first.toInt ++ (if inclusive then "..=" else "..") ++
    if last = Int64.maxValue then "" else toString last.toInt

def listText (items : List String) : String :=
  "[" ++ ", ".intercalate items ++ "]"

def tableText (entries : List (String × String)) : String :=
  "#\x7b" ++ ", ".intercalate (entries.map fun entry => quoted entry.1 ++ ": " ++ entry.2) ++
    "\x7d"

def functionText (name : String) : String :=
  "Fn(" ++ name ++ ")"

namespace Datum

def display : Datum → String
  | unit => ""
  | boolean value => if value then "true" else "false"
  | integer value => toString value.toInt
  | float value => floatText value
  | text value => value
  | letter value => value.toString
  | range first last inclusive => rangeText first last inclusive
  | fault value => (Datum.fault value).typeName

def nested : Datum → String
  | unit => "()"
  | float value => nestedFloatText value
  | text value => quoted value
  | other => other.display

def bare : Datum → String
  | letter value => quotedLetter value
  | other => other.nested

end Datum

namespace Value

mutual

def bare : Value → String
  | datum value => value.bare
  | list items => listText (bareArray items)
  | table entries => tableText (bareEntries entries)
  | function name _ => functionText name
  | other => other.hostTypeName

def bareArray : Array Value → List String
  | ⟨items⟩ => bareItems items

def bareItems : List Value → List String
  | [] => []
  | item :: rest => item.bare :: bareItems rest

def bareEntries : List (String × Value) → List (String × String)
  | [] => []
  | (name, value) :: rest => (name, value.bare) :: bareEntries rest

end

/-- The text on its own, written without calling functions: an instance shows its type only. -/
def plain : Value → String
  | datum value => value.display
  | other => other.bare

end Value
end ScriptHost.Script
