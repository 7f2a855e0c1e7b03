/-
This file writes doubles in decimal. A finite number is written with the fewest digits that
read back as the same number, and of those with the digits nearest to it; the point is
always written out, never an exponent.

The search walks over decimal grids from coarse to fine. On each grid only the two
neighbours of the number can lie in the interval of reals that round to it, so the first
grid with a hit has the fewest digits. All comparisons are exact, in natural numbers.
-/
import PatternDispatch.Double

namespace PatternDispatch.Double

/-! ### The reals that round to a number -/

/-- Decimal digits and the power of ten that scales them. -/
structure Decimal where
  digits : Nat
  power : Int

/-- A positive number and the bounds of the reals that round to it, in quarters of a unit of
its last binary place. -/
structure Neighbourhood where
  lower : Nat
  center : Nat
  upper : Nat
  /-- Whether the bounds themselves round to the number. -/
  closed : Bool
  /-- The power of two of one quarter. -/
  scale : Int

/-- The bounds lie half way to the neighbours; below a power of two the neighbour is half as
far away, unless the exponent is already the least one. -/
def neighbourhood (number : Double) : Neighbourhood :=
  let center := 4 * number.mantissa
  let below := if number.fractionField = 0 ∧ 1 < number.exponentField then 1 else 2
  { lower := center - below
    center := center
    upper := center + 2
    closed := number.mantissa % 2 = 0
    scale := number.scale - 2 }

/-- Whether `point` lies between the bounds, all three on one scale. -/
def Neighbourhood.admits (area : Neighbourhood) (unit point : Nat) : Bool :=
  if area.closed then area.lower * unit ≤ point && point ≤ area.upper * unit
  else area.lower * unit < point && point < area.upper * unit

/-! ### Decimal grids -/

/-- The point of the grid of multiples of ten to `power` that stands for the number: the one
neighbour that rounds to it, or of two such the nearer; half way between them, the upper. -/
def Neighbourhood.gridPoint (area : Neighbourhood) (power : Int) : Option Nat :=
  let unit := Nat.pow 2 area.scale.toNat * Nat.pow 10 (-power).toNat
  let step := Nat.pow 10 power.toNat * Nat.pow 2 (-area.scale).toNat
  let center := area.center * unit
  let floor := center / step
  let below := floor * step
  let above := below + step
  match area.admits unit below, area.admits unit above with
  | true, true => some (if above - center ≤ center - below then floor + 1 else floor)
  | true, false => some floor
  | false, true => some (floor + 1)
  | false, false => none

/-- Searches the grids from `power` downwards. -/
def Neighbourhood.search (area : Neighbourhood) : Nat → Int → Decimal
  | 0, power => ⟨0, power⟩
  | attempts + 1, power =>
    match area.gridPoint power with
    | some digits => ⟨digits, power⟩
    | none => area.search attempts (power - 1)

/-- A power of ten above the number. -/
def Neighbourhood.startingPower (area : Neighbourhood) : Int :=
  (Int.ofNat (area.center.log2 + 1) + area.scale) * 30103 / 100000 + 2

/-- Seventeen digits always suffice; the search starts a few places above the first digit. -/
def shortest (number : Double) : Decimal :=
  let area := number.neighbourhood
  area.search 24 area.startingPower

/-! ### The text -/

/-- Digits scaled by a power of ten, with the point written out. -/
def Decimal.text (decimal : Decimal) : String :=
  let digits := Nat.toDigits 10 decimal.digits
  let places := (-decimal.power).toNat
  if places = 0 then
    String.ofList (digits ++ List.replicate decimal.power.toNat '0')
  else if digits.length ≤ places then
    "0." ++ String.ofList (List.replicate (places - digits.length) '0' ++ digits)
  else
    let whole := digits.length - places
    String.ofList (digits.take whole) ++ "." ++ String.ofList (digits.drop whole)

/-- The decimal text of a number; `NaN` has no sign. -/
def text (number : Double) : String :=
  if number.isNaN then "NaN"
  else
    let unsigned :=
      if number.isInfinite then "inf"
      else if number.isZero then "0"
      else number.shortest.text
    if number.isNegative then "-" ++ unsigned else unsigned

end PatternDispatch.Double
