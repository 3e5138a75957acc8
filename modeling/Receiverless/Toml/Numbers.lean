/-
  Receiverless/Toml/Numbers.lean
  ==============================
  **Numbers, dates and times.**  Digits may be grouped by single underscores.
  Integers fit in 64 bits; a number with a fraction or an exponent must not be
  too large.  Dates are checked against the calendar.
-/
import Receiverless.Decimal.Nearest
import Receiverless.Toml.Basic
import Receiverless.Toml.Strings

namespace Receiverless.Toml

open Scanner

/-! ### Digits -/

/-- Digits behind a first one, which underscores may separate, and what follows them. -/
def groupedDigits (isDigit : Char → Bool) : List Char → List Char × List Char
  | [] => ([], [])
  | '_' :: c :: rest =>
    if isDigit c then
      let (ds, rest) := groupedDigits isDigit rest
      (c :: ds, rest)
    else ([], '_' :: c :: rest)
  | c :: rest =>
    if isDigit c then
      let (ds, rest) := groupedDigits isDigit rest
      (c :: ds, rest)
    else ([], c :: rest)

/-- One digit at least, then more. -/
def digitRun (isDigit : Char → Bool) : Scanner (List Char) := do
  let first ← satisfy isDigit
  let (ds, rest) := groupedDigits isDigit (← get)
  set rest
  return first :: ds

def valueIn (base : Nat) (ds : List Char) : Nat :=
  ds.foldl (fun v c => v * base + hexDigitValue c) 0

/-- An optional sign; true for minus. -/
def sign : Scanner Bool := do
  match ← peek with
  | some '+' => do let _ ← next; return false
  | some '-' => do let _ ← next; return true
  | _ => return false

/-- Decimal digits without a leading zero. -/
def plainDigits : Scanner (List Char) := do
  match ← peek with
  | some '0' => do let _ ← next; return ['0']
  | _ => digitRun Char.isDigit

/-! ### Integers -/

def within64 (n : Int) : Scanner Value := do
  require (-(Int.pow 2 63) ≤ n && n < Int.pow 2 63)
  return .integer n

def inBase (mark : String) (base : Nat) (isDigit : Char → Bool) : Scanner Value := do
  chars mark
  within64 (valueIn base (← digitRun isDigit))

def decimalInteger : Scanner Value := do
  let negative ← sign
  let n : Int := valueIn 10 (← plainDigits)
  within64 (if negative then -n else n)

def integer : Scanner Value := do
  match ← get with
  | '0' :: 'x' :: _ => inBase "0x" 16 isHexDigit
  | '0' :: 'o' :: _ => inBase "0o" 8 fun c => '0' ≤ c && c ≤ '7'
  | '0' :: 'b' :: _ => inBase "0b" 2 fun c => c == '0' || c == '1'
  | _ => decimalInteger

/-! ### Floating-point numbers -/

def exponentPart : Scanner Int := do
  let _ ← satisfy fun c => c == 'e' || c == 'E'
  let negative ← sign
  let n : Int := valueIn 10 (← digitRun Char.isDigit)
  return if negative then -n else n

def fractionPart : Scanner (List Char) := do
  char '.'
  digitRun Char.isDigit

/-- A number with a fraction, an exponent or both. -/
def decimalFloat : Scanner Value := do
  let negative ← sign
  let whole ← plainDigits
  let fraction ← Scanner.optional fractionPart
  let exponent ← match fraction with
    | none => some <$> exponentPart
    | some _ => Scanner.optional exponentPart
  let places := fraction.getD []
  let d : Decimal.Numeral := ⟨valueIn 10 (whole ++ places), exponent.getD 0 - places.length⟩
  let x := d.nearest negative
  require (x != Binary64.infinity false)
  return .float x

/-- Infinity or not-a-number. -/
def specialFloat : Scanner Value := do
  let negative ← sign
  (do
    chars "inf"
    return .float (Binary64.infinity negative)) <|> (do
    chars "nan"
    return .float Binary64.nan)

/-! ### Dates and times -/

def daysIn (year month : Nat) : Nat :=
  if month = 2 then
    if year % 4 = 0 ∧ (year % 100 ≠ 0 ∨ year % 400 = 0) then 29 else 28
  else if month ∈ [4, 6, 9, 11] then 30
  else 31

def date : Scanner Unit := do
  let year ← digits 4
  char '-'
  let month ← digits 2
  require (1 ≤ month && month ≤ 12)
  char '-'
  let day ← digits 2
  require (1 ≤ day && day ≤ daysIn year month)

def hourAndMinute : Scanner (Nat × Nat) := do
  let hour ← digits 2
  require (hour ≤ 23)
  char ':'
  let minute ← digits 2
  require (minute ≤ 59)
  return (hour, minute)

def time : Scanner Unit := do
  let _ ← hourAndMinute
  char ':'
  let second ← digits 2
  require (second ≤ 60)
  let _ ← Scanner.optional do
    char '.'
    let ds ← Scanner.takeWhile Char.isDigit
    require (!ds.isEmpty)

def timeOffset : Scanner Unit := do
  match ← next with
  | 'Z' | 'z' => return ()
  | '+' | '-' => do let _ ← hourAndMinute
  | _ => failure

/-- A date, a time, or a date and a time with or without an offset. -/
def datetime : Scanner Value := do
  (do
    date
    let _ ← Scanner.optional do
      let _ ← satisfy fun c => c == 'T' || c == 't' || c == ' '
      time
      let _ ← Scanner.optional timeOffset) <|> time
  return .datetime

/-- Everything that starts with a digit or a sign. -/
def numberOrDate : Scanner Value :=
  datetime <|> decimalFloat <|> specialFloat <|> integer

end Receiverless.Toml
