/-
  Receiverless/Decimal/Format.lean
  ================================
  **Writing floating-point values.**  A format says which values are written
  positionally; all others are written with an exponent.  Positional numbers
  have at least one digit after the point, numbers with an exponent have a
  point only if a digit follows it.
-/
import Receiverless.Decimal.Shortest

namespace Receiverless.Decimal

/-- The choices of a text form. -/
structure Format where
  /-- whether a number whose leading digit stands at `10 ^ e` is written positionally -/
  positional : Int → Bool
  /-- which of two equally near shortest decimals is written -/
  tie : Tie
  /-- whether an exponent that is not negative has a plus sign -/
  plusSign : Bool := false

/-- Without exponents. -/
def Format.positionalOnly : Format where
  positional _ := true
  tie := .awayFromZero

/-- `n` zeros. -/
def zeros (n : Nat) : String := String.ofList (List.replicate n '0')

/-- A decimal with a point and no exponent. -/
def Numeral.positionalText (d : Numeral) : String :=
  let digits := toString d.coefficient
  if 0 ≤ d.exponent then digits ++ zeros d.exponent.toNat ++ ".0"
  else
    let places := (-d.exponent).toNat
    if digits.length ≤ places then "0." ++ zeros (places - digits.length) ++ digits
    else
      let cs := digits.toList
      String.ofList (cs.take (cs.length - places)) ++ "." ++
        String.ofList (cs.drop (cs.length - places))

/-- The exponent of the leading digit. -/
def Numeral.magnitude (d : Numeral) : Int :=
  d.exponent + ((toString d.coefficient).length : Int) - 1

/-- A decimal with one digit in front of the point and an exponent, which shows a plus sign if it is
    wanted. -/
def Numeral.scientificText (plusSign : Bool) (d : Numeral) : String :=
  match (toString d.coefficient).toList with
  | [] => ""
  | c :: cs =>
    let point := if cs.isEmpty then "" else "."
    let plus := if plusSign && 0 ≤ d.magnitude then "+" else ""
    c.toString ++ point ++ String.ofList cs ++ "e" ++ plus ++ toString d.magnitude

/-- The text of a value.  A NaN has no sign; zero keeps its own. -/
def Format.text (f : Format) (x : Binary64) : String :=
  if x.isNaN then "NaN"
  else
    let sign := if x.negative then "-" else ""
    if x.isInfinite then sign ++ "inf"
    else if x.isZero then sign ++ "0.0"
    else
      let d := shortest f.tie x
      sign ++ if f.positional d.magnitude then d.positionalText else d.scientificText f.plusSign

end Receiverless.Decimal
