/-
  Receiverless/Decimal/Shortest.lean
  ==================================
  **The shortest decimal that reads back.**  A finite value `m · 2 ^ q` stands
  for an interval of reals, those that round to it.  Of all decimals in that
  interval we want one with the fewest digits, and among those the one nearest
  to the value.

  The search is exact.  For one digit, two digits, … it looks at the two
  neighbours of the value on the grid of decimals with that many digits; if any
  decimal of the grid lies in the interval, one of these two does.
-/
import Receiverless.Decimal.Binary64

namespace Receiverless.Decimal

/-- The number `coefficient · 10 ^ exponent`. -/
structure Numeral where
  coefficient : Nat
  exponent : Int
deriving DecidableEq, Repr

/-- A non-negative fraction. -/
structure Ratio where
  num : Nat
  den : Nat

namespace Ratio

/-- `m · b ^ e` for an integer exponent. -/
def scaled (m b : Nat) (e : Int) : Ratio :=
  if 0 ≤ e then ⟨m * Nat.pow b e.toNat, 1⟩ else ⟨m, Nat.pow b (-e).toNat⟩

/-- Multiply by `b ^ e`. -/
def shift (r : Ratio) (b : Nat) (e : Int) : Ratio :=
  if 0 ≤ e then ⟨r.num * Nat.pow b e.toNat, r.den⟩ else ⟨r.num, r.den * Nat.pow b (-e).toNat⟩

def floor (r : Ratio) : Nat := r.num / r.den

/-- Order by cross multiplication. -/
def compare (r s : Ratio) : Ordering := Ord.compare (r.num * s.den) (s.num * r.den)

end Ratio

/-- The interval of reals that round to a value, in quarters of its last place. -/
structure Interval where
  lower : Ratio
  upper : Ratio
  /-- whether the two ends belong to it -/
  closed : Bool

namespace Interval

/-- The reals that round to `x`.  Below a power of two the neighbour is only half as far, and the
    ends count exactly when the significand is even. -/
def of (x : Binary64) : Interval :=
  let m := x.significand
  let below := if x.fraction = 0 ∧ 1 < x.exponentField then 1 else 2
  { lower := Ratio.scaled (4 * m - below) 2 (x.scale - 2)
    upper := Ratio.scaled (4 * m + 2) 2 (x.scale - 2)
    closed := m % 2 == 0 }

def contains (i : Interval) (r : Ratio) : Bool :=
  match i.lower.compare r, r.compare i.upper with
  | .lt, .lt => true
  | .eq, .lt | .lt, .eq => i.closed
  | _, _ => false

end Interval

/-- The position of the leading digit of a ratio below one: the least number of factors ten that
    lift it to one. -/
def leadingZeros : Nat → Nat → Nat → Nat
  | 0, _, _ => 0
  | fuel + 1, num, den => if den ≤ num then 0 else leadingZeros fuel (num * 10) den + 1

/-- The number of decimal digits after the first of a number that is at least one. -/
def digitsAfterFirst : Nat → Nat → Nat
  | 0, _ => 0
  | fuel + 1, n => if n < 10 then 0 else digitsAfterFirst fuel (n / 10) + 1

/-- The exponent `e` with `10 ^ e ≤ r < 10 ^ (e + 1)`, for `r` between the least and the greatest
    binary64 value. -/
def Ratio.magnitude (r : Ratio) : Int :=
  if r.den ≤ r.num then digitsAfterFirst 400 r.floor else -(leadingZeros 400 r.num r.den : Int)

/-- Which of two equally near decimals is taken. -/
inductive Tie where
  | toEven
  | awayFromZero
deriving DecidableEq, Repr

/-- Of the neighbours `d` and `d + 1` of `r`, both allowed, the nearer one. -/
def nearer (tie : Tie) (d : Nat) (r : Ratio) : Nat :=
  match Ord.compare (2 * r.num) ((2 * d + 1) * r.den) with
  | .lt => d
  | .gt => d + 1
  | .eq => match tie with
    | .toEven => if d % 2 = 0 then d else d + 1
    | .awayFromZero => d + 1

/-- The best decimal on the grid of multiples of `10 ^ e`, if the interval holds one. -/
def onGrid? (tie : Tie) (i : Interval) (value : Ratio) (e : Int) : Option Numeral :=
  let r := value.shift 10 (-e)
  let d := r.floor
  let low := i.contains (Ratio.scaled d 10 e)
  let high := i.contains (Ratio.scaled (d + 1) 10 e)
  if low && high then some ⟨nearer tie d r, e⟩
  else if low then some ⟨d, e⟩
  else if high then some ⟨d + 1, e⟩
  else none

/-- Search the grids from coarse to fine. -/
def firstOnGrid (tie : Tie) (i : Interval) (value : Ratio) : Nat → Int → Numeral
  | 0, e => (onGrid? tie i value e).getD ⟨(value.shift 10 (-e)).floor, e⟩
  | fuel + 1, e => (onGrid? tie i value e).getD (firstOnGrid tie i value fuel (e - 1))

/-- Move trailing zeros of the coefficient into the exponent. -/
def Numeral.strip : Nat → Numeral → Numeral
  | 0, d => d
  | fuel + 1, d =>
    if d.coefficient ≠ 0 ∧ d.coefficient % 10 = 0 then
      strip fuel ⟨d.coefficient / 10, d.exponent + 1⟩
    else d

/-- The shortest decimal for the magnitude of a finite value that is not zero. -/
def shortest (tie : Tie) (x : Binary64) : Numeral :=
  let value := Ratio.scaled x.significand 2 x.scale
  (firstOnGrid tie (Interval.of x) value 17 value.magnitude).strip 20

end Receiverless.Decimal
