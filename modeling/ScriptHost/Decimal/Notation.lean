import ScriptHost.Decimal.Shortest

/-!
Ways to write a numeral, and the plain text of a double.

Plain text never uses an exponent: `1e300` is a one and three hundred zeros. The formats that
decide between positional and scientific notation stand with the documents they belong to.
-/

namespace ScriptHost.Decimal

def Numeral.digitChars (numeral : Numeral) : List Char :=
  numeral.digits.repr.toList

def Numeral.leading (numeral : Numeral) : Int :=
  numeral.exponent + numeral.digitChars.length - 1

def zeros (count : Nat) : List Char :=
  List.replicate count '0'

/-- All digits around a decimal point; `whole` follows a number without fractional digits. -/
def Numeral.positional (numeral : Numeral) (whole : String) : String :=
  let digits := numeral.digitChars
  if 0 ≤ numeral.exponent then
    String.ofList (digits ++ zeros numeral.exponent.toNat) ++ whole
  else
    let places := (-numeral.exponent).toNat
    if places < digits.length then
      let point := digits.length - places
      String.ofList (digits.take point ++ '.' :: digits.drop point)
    else
      String.ofList ('0' :: '.' :: zeros (places - digits.length) ++ digits)

/-- One digit before the point, no point after a single digit; `plus` marks exponents from zero
up. -/
def Numeral.scientific (numeral : Numeral) (plus : String) : String :=
  let mantissa := match numeral.digitChars with
    | first :: second :: rest => String.ofList (first :: '.' :: second :: rest)
    | digits => String.ofList digits
  let exponent := if 0 ≤ numeral.leading
    then plus ++ numeral.leading.toNat.repr
    else "-" ++ (-numeral.leading).toNat.repr
  mantissa ++ "e" ++ exponent

def signText (number : Float) : String :=
  if hasMinus number then "-" else ""

/-- The shortest digits that read back, without an exponent; a tie goes upward. -/
def plain (number : Float) : String :=
  match magnitude number with
  | .notANumber => "NaN"
  | .infinite => signText number ++ "inf"
  | .zero => signText number ++ "0"
  | .finite value => signText number ++ (value.shortest .upward).positional ""

end ScriptHost.Decimal
