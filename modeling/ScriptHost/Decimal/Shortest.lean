import ScriptHost.Decimal.Binary

/-!
The shortest decimal numeral of a double.

Every double owns the interval of reals that round to it; the ends belong to it when the mantissa
is even. Of the numerals with the fewest digits inside that interval the one nearest to the double
is taken; where two are equally near, the format that is written decides. If a grid of decimal
numbers meets the interval, it does so at one of the two grid points around the double, so only
these two are tried for each number of digits.
-/

namespace ScriptHost.Decimal

/-- The number `digits * 10 ^ exponent`. -/
structure Numeral where
  digits : Nat
  exponent : Int
deriving DecidableEq, Repr

/-- Which of two equally near numerals is taken: the larger one, or the one with an even last
digit. -/
inductive Tie where
  | upward
  | toEven
deriving DecidableEq, Repr

def Tie.takesUpper (tie : Tie) (below : Nat) : Bool :=
  match tie with
  | upward => true
  | toEven => below % 2 == 1

/-- A double beside the decimal grid of step `10 ^ k`, all scaled to natural numbers: the grid
point `d` stands at `d * step`, the double at `centre`, and its interval runs from `low` to
`high`. -/
structure Grid where
  step : Nat
  low : Nat
  centre : Nat
  high : Nat
  closed : Bool
deriving Repr

/-- Scales by four so that the half-way points to both neighbours are natural numbers. -/
def Dyadic.grid (value : Dyadic) (power : Int) : Grid :=
  let binary := value.exponent - 2
  let stretch := Nat.pow 2 binary.toNat * Nat.pow 10 (-power).toNat
  { step := Nat.pow 2 (-binary).toNat * Nat.pow 10 power.toNat
    low := (4 * value.mantissa - if value.narrow then 1 else 2) * stretch
    centre := 4 * value.mantissa * stretch
    high := (4 * value.mantissa + 2) * stretch
    closed := value.mantissa % 2 == 0 }

def Grid.holds (grid : Grid) (digits : Nat) : Bool :=
  let point := digits * grid.step
  if grid.closed then
    decide (grid.low ≤ point) && decide (point ≤ grid.high)
  else
    decide (grid.low < point) && decide (point < grid.high)

def Grid.nearest? (grid : Grid) (tie : Tie) : Option Nat :=
  let below := grid.centre / grid.step
  let above := below + 1
  match grid.holds below, grid.holds above with
  | true, true =>
      let down := grid.centre - below * grid.step
      let up := above * grid.step - grid.centre
      if up < down || (up == down && tie.takesUpper below) then some above else some below
  | true, false => some below
  | false, true => some above
  | false, false => none

def Dyadic.reaches (value : Dyadic) (power : Int) : Bool :=
  let grid := value.grid power
  decide (grid.step ≤ grid.centre)

/-- The exponent of the leading decimal digit. The estimate from the binary length is at most one
off. -/
def Dyadic.leadingPower (value : Dyadic) : Int :=
  let estimate := ((value.mantissa.log2 : Int) + value.exponent) * 30103 / 100000
  if value.reaches (estimate + 1) then estimate + 1
  else if value.reaches estimate then estimate
  else estimate - 1

def Dyadic.searchFrom (value : Dyadic) (tie : Tie) (leading : Int) : Nat → Nat → Numeral
  | 0, count => ⟨(value.grid (leading - count)).centre / (value.grid (leading - count)).step,
      leading - count⟩
  | remaining + 1, count =>
      match (value.grid (leading - count)).nearest? tie with
      | some digits => ⟨digits, leading - count⟩
      | none => value.searchFrom tie leading remaining (count + 1)

def Numeral.dropZeros : Nat → Numeral → Numeral
  | 0, numeral => numeral
  | fuel + 1, numeral =>
      if numeral.digits % 10 = 0 ∧ numeral.digits ≠ 0 then
        Numeral.dropZeros fuel ⟨numeral.digits / 10, numeral.exponent + 1⟩
      else
        numeral

/-- Seventeen digits always suffice for a double. -/
def Dyadic.shortest (value : Dyadic) (tie : Tie) : Numeral :=
  Numeral.dropZeros 20 (value.searchFrom tie value.leadingPower 17 0)

end ScriptHost.Decimal
