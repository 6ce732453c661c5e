import Handover.Number.Double

/-!
The fewest decimal digits that read back. The numbers that round to a given one form an interval.
Of the decimal grids that meet it the coarsest is taken, and there the point nearest to the number.
-/

namespace Handover.Number

/-- Four times a coefficient and its neighbours, halfway to the next numbers on both sides. -/
structure Interval where
  low : Nat
  middle : Nat
  high : Nat
  closed : Bool

/-- Below a power of two the neighbours are half as far apart. -/
def Interval.around (coefficient : Nat) (exponent : Int) : Interval where
  low := if coefficient = Nat.pow 2 52 ∧ Double.leastExponent < exponent then 4 * coefficient - 1
    else 4 * coefficient - 2
  middle := 4 * coefficient
  high := 4 * coefficient + 2
  closed := coefficient % 2 == 0

/-- A point of the grid `10 ^ place` in the interval, nearest to its middle, where the interval
counts in units of `2 ^ exponent`. -/
def Interval.gridPoint? (i : Interval) (exponent place : Int) : Option Nat :=
  let grid := Nat.pow 10 place.toNat * Nat.pow 2 (-exponent).toNat
  let unit := Nat.pow 2 exponent.toNat * Nat.pow 10 (-place).toNat
  let holds (point : Nat) : Bool :=
    if i.closed then i.low * unit ≤ point * grid && point * grid ≤ i.high * unit
    else i.low * unit < point * grid && point * grid < i.high * unit
  let below := i.middle * unit / grid
  let rest := 2 * (i.middle * unit % grid)
  let (first, second) :=
    if rest < grid ∨ (rest = grid ∧ below % 2 = 0) then (below, below + 1) else (below + 1, below)
  if first ≠ 0 && holds first then some first
  else if second ≠ 0 && holds second then some second
  else none

def Interval.digits (i : Interval) (exponent : Int) : (grids : Nat) → (place : Int) → Nat × Int
  | 0, place => (0, place)
  | grids + 1, place =>
    match i.gridPoint? exponent place with
    | some point => (point, place)
    | none => i.digits exponent grids (place - 1)

/-- Digits and the power of ten of the last of them. Forty grids reach from above the number to
beyond its seventeenth digit. -/
def shortestDigits (coefficient : Nat) (exponent : Int) : Nat × Int :=
  let magnitude := ((coefficient.log2 : Int) + exponent) * 30103 / 100000
  (Interval.around coefficient exponent).digits (exponent - 2) 40 (magnitude + 3)

end Handover.Number
