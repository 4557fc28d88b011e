import CodeAtlas.Decimal.Binary

/-!
The shortest decimal that reads back. A binary value is the nearest one for every real in an
interval around it; of the decimals in that interval the one on the coarsest power-of-ten grid is
taken, of two on that grid the nearer, and of two equally near the even one.
-/
namespace CodeAtlas.Decimal

structure Scaled where
  digits : Nat
  exponent : Int
  deriving DecidableEq, Repr

/-- Reals that round to a finite value, in quarters of `2 ^ exponent`. -/
structure Interval where
  low : Nat
  value : Nat
  high : Nat
  exponent : Int
  closed : Bool
  deriving DecidableEq, Repr

def intervalOf (f : Format) (mantissa : Nat) (exponent : Int) : Interval :=
  let boundary := mantissa = twoTo (f.precision - 1) ∧ f.leastExponent < exponent
  { low := 4 * mantissa - (if boundary then 1 else 2)
    value := 4 * mantissa
    high := 4 * mantissa + 2
    exponent := exponent - 2
    closed := mantissa % 2 = 0 }

namespace Interval

/-- Both sides of a comparison of `n * 2 ^ exponent` with `d * 10 ^ grid` as natural numbers. -/
def binarySide (i : Interval) (grid : Int) (n : Nat) : Nat :=
  n * twoTo i.exponent.toNat * tenTo (-grid).toNat

def decimalSide (i : Interval) (grid : Int) (d : Nat) : Nat :=
  d * tenTo grid.toNat * twoTo (-i.exponent).toNat

def holds (i : Interval) (grid : Int) (d : Nat) : Bool :=
  let point := i.decimalSide grid d
  let low := i.binarySide grid i.low
  let high := i.binarySide grid i.high
  if i.closed then low ≤ point && point ≤ high else low < point && point < high

def below (i : Interval) (grid : Int) : Nat :=
  i.binarySide grid i.value / i.decimalSide grid 1

/-- The better of the value's two neighbours on a grid, when one of them lies in the interval. -/
def onGrid? (i : Interval) (grid : Int) : Option Nat :=
  let d := i.below grid
  match i.holds grid d, i.holds grid (d + 1) with
  | false, false => none
  | true, false => some d
  | false, true => some (d + 1)
  | true, true =>
    let value := i.binarySide grid i.value
    let left := value - i.decimalSide grid d
    let right := i.decimalSide grid (d + 1) - value
    if left < right then some d
    else if right < left then some (d + 1)
    else if d % 2 = 0 then some d else some (d + 1)

/-- The first grid with a point in the interval, going from coarse to fine. -/
def coarsest (i : Interval) : Nat → Int → Scaled
  | 0, grid => ⟨i.below grid, grid⟩
  | steps + 1, grid =>
    match i.onGrid? grid with
    | some d => ⟨d, grid⟩
    | none => i.coarsest steps (grid - 1)

end Interval

def topGrid (n : Nat) (exponent : Int) : Int :=
  ((n.log2 : Int) + 1 + exponent) * 30103 / 100000 + 2

/-- Enough steps to go from the top grid to one finer than the interval. -/
def shortest (f : Format) (mantissa : Nat) (exponent : Int) : Scaled :=
  if mantissa = 0 then ⟨0, 0⟩
  else
    (intervalOf f mantissa exponent).coarsest (f.precision + 4) (topGrid mantissa exponent)

end CodeAtlas.Decimal
