/-
  Receiverless/Json/Basic.lean
  ============================
  **JSON values and their text.**  Objects keep their fields in order.  Two
  text forms are written: a compact one without white space, and an indented one
  with two spaces per level, in which empty arrays and objects stay on one line.

  In strings the quote, the backslash and the control characters are escaped;
  all other characters stand for themselves.
-/
import Receiverless.Decimal.Format

namespace Receiverless

/-- A JSON value. -/
inductive Json where
  | null
  | bool (b : Bool)
  | int (n : Int)
  | float (x : Binary64)
  | string (s : String)
  | array (items : List Json)
  | object (fields : List (String × Json))

namespace Json

/-- A hexadecimal digit, in lower case. -/
def hexDigit (n : Nat) : Char :=
  if n < 10 then Char.ofNat (48 + n) else Char.ofNat (87 + n)

/-- A character inside a string. -/
def escape (c : Char) : List Char :=
  if c = '"' then ['\\', '"']
  else if c = '\\' then ['\\', '\\']
  else if c = '\n' then ['\\', 'n']
  else if c = '\r' then ['\\', 'r']
  else if c = '\t' then ['\\', 't']
  else if c.toNat = 8 then ['\\', 'b']
  else if c.toNat = 12 then ['\\', 'f']
  else if c.toNat < 32 then
    ['\\', 'u', '0', '0', hexDigit (c.toNat / 16), hexDigit (c.toNat % 16)]
  else [c]

/-- A string in quotes. -/
def quoted (s : String) : String :=
  String.ofList ('"' :: s.toList.flatMap escape ++ ['"'])

/-- Numbers have the fewest digits that read back, a tie going to the even digit, with a signed
    exponent from `1e+16` on and below `1e-5`. -/
def numberFormat : Decimal.Format where
  positional e := -5 ≤ e && e < 16
  tie := .toEven
  plusSign := true

/-- The text of a value that is not a filled array or object.  What is not a number is null. -/
def scalarText : Json → String
  | .null => "null"
  | .bool true => "true"
  | .bool false => "false"
  | .int n => toString n
  | .float x => if x.isNaN || x.isInfinite then "null" else numberFormat.text x
  | .string s => quoted s
  | .array _ => "[]"
  | .object _ => "\x7b\x7d"

mutual

/-- The text without white space. -/
def compact : Json → String
  | .array items => "[" ++ ",".intercalate (compactItems items) ++ "]"
  | .object fields => "\x7b" ++ ",".intercalate (compactFields fields) ++ "\x7d"
  | v => v.scalarText

def compactItems : List Json → List String
  | [] => []
  | v :: vs => v.compact :: compactItems vs

def compactFields : List (String × Json) → List String
  | [] => []
  | (k, v) :: rest => (quoted k ++ ":" ++ v.compact) :: compactFields rest

end

/-- The line end and white space in front of an element at a given depth. -/
def lineStart (depth : Nat) : String := "\n" ++ String.join (List.replicate depth "  ")

/-- Elements on lines of their own between brackets. -/
def onLines (opening closing : String) (depth : Nat) (elements : List String) : String :=
  opening ++ ",".intercalate (elements.map fun e => lineStart (depth + 1) ++ e) ++
    lineStart depth ++ closing

mutual

/-- The indented text of a value whose brackets stand at a given depth. -/
def prettyAt (depth : Nat) : Json → String
  | .array (v :: vs) => onLines "[" "]" depth (prettyItems (depth + 1) (v :: vs))
  | .object (f :: fs) => onLines "\x7b" "\x7d" depth (prettyFields (depth + 1) (f :: fs))
  | v => v.scalarText

def prettyItems (depth : Nat) : List Json → List String
  | [] => []
  | v :: vs => v.prettyAt depth :: prettyItems depth vs

def prettyFields (depth : Nat) : List (String × Json) → List String
  | [] => []
  | (k, v) :: rest => (quoted k ++ ": " ++ v.prettyAt depth) :: prettyFields depth rest

end

/-- The indented text. -/
def pretty (v : Json) : String := v.prettyAt 0

end Json

end Receiverless
