/-
  Receiverless/Decimal/Nearest.lean
  =================================
  **Reading a decimal.**  The value of a decimal numeral is the nearest
  binary64 number, and of two equally near ones the one with the even
  significand.  Numerals beyond the greatest number read as infinity.
-/
import Receiverless.Decimal.Shortest

namespace Receiverless.Decimal

/-- Round a ratio to the nearest integer, a half to the even one. -/
def Ratio.round (r : Ratio) : Nat :=
  let d := r.floor
  if r.num % r.den = 0 then d else nearer .toEven d r

/-- The exponent `e` with `2 ^ e ≤ r < 2 ^ (e + 1)` of a positive ratio. -/
def Ratio.log2 (r : Ratio) : Int :=
  let t := (r.num.log2 : Int) - (r.den.log2 : Int)
  match (Ratio.scaled 1 2 t).compare r with
  | .gt => t - 1
  | _ => t

/-- The bits of the number nearest to a positive ratio, without sign. -/
def Ratio.magnitudeBits (r : Ratio) : Nat :=
  let q := max (-1074) (r.log2 - 52)
  let bits := (q + 1074).toNat * Nat.pow 2 52 + (r.shift 2 (-q)).round
  min bits 0x7ff0000000000000

/-- The value nearest to `± coefficient · 10 ^ exponent`.  Exponents far outside the range of the
    format are answered without computing the power. -/
def Numeral.nearest (negative : Bool) (d : Numeral) : Binary64 :=
  let reach := d.exponent + ((toString d.coefficient).length : Int)
  if d.coefficient = 0 ∨ reach < -330 then Binary64.withSign negative 0
  else if 310 < reach then Binary64.infinity negative
  else Binary64.withSign negative (Ratio.scaled d.coefficient 10 d.exponent).magnitudeBits

end Receiverless.Decimal
