/-
  Receiverless/Mismatch.lean
  ==========================
  **Why a value does not have the wanted shape.**  Settings and signatures can
  be read from structured values.  When that fails the reader says what it
  found, what it wanted, or which field was at fault; the wording is in
  `Mismatch.message` and nowhere else.  How a number is written in a message
  depends on the notation that the value came from.
-/
import Receiverless.Text.Quoted
import Receiverless.Json.Basic
import Receiverless.Order

namespace Receiverless

/-- What stands where something else was wanted. -/
inductive Found where
  | null
  | bool (b : Bool)
  | int (n : Int)
  | float (x : Binary64)
  | string (s : String)
  | sequence
  | map
deriving DecidableEq, Repr

/-- What was wanted. -/
inductive Wanted where
  | boolean
  | string
  | sequence
  /-- a record with named fields -/
  | record (name : String)
  /-- one of several words, alone or as the key of a map -/
  | variant
  /-- nothing -/
  | unit
deriving DecidableEq, Repr

inductive Mismatch where
  | wrongType (found : Found) (wanted : Wanted)
  | missingField (name : String)
  | unknownField (name : String) (known : List String)
  | unknownVariant (name : String) (known : List String)
  | tooShort (length : Nat) (record : String) (size : Nat)
  | tooLong (length : Nat)
  | notSingleKey
deriving DecidableEq, Repr

def inBackquotes (s : String) : String := "`" ++ s ++ "`"

def Found.text (numbers : Decimal.Format) : Found → String
  | .null => "null"
  | .bool b => "boolean " ++ inBackquotes (if b then "true" else "false")
  | .int n => "integer " ++ inBackquotes (toString n)
  | .float x => "floating point " ++ inBackquotes (numbers.text x)
  | .string s => "string " ++ Text.quoted s
  | .sequence => "sequence"
  | .map => "map"

def Wanted.text : Wanted → String
  | .boolean => "a boolean"
  | .string => "a string"
  | .sequence => "a sequence"
  | .record name => "struct " ++ name
  | .variant => "string or map"
  | .unit => "unit"

/-- A choice of names. -/
def alternatives : List String → String
  | [a] => inBackquotes a
  | [a, b] => inBackquotes a ++ " or " ++ inBackquotes b
  | names => "one of " ++ ", ".intercalate (names.map inBackquotes)

namespace Mismatch

def message (numbers : Decimal.Format) : Mismatch → String
  | .wrongType found wanted =>
    "invalid type: " ++ found.text numbers ++ ", expected " ++ wanted.text
  | .missingField name => "missing field " ++ inBackquotes name
  | .unknownField name known =>
    "unknown field " ++ inBackquotes name ++ ", expected " ++ alternatives known
  | .unknownVariant name known =>
    "unknown variant " ++ inBackquotes name ++ ", expected " ++ alternatives known
  | .tooShort length record size =>
    "invalid length " ++ toString length ++ ", expected struct " ++ record ++ " with " ++
      toString size ++ " elements"
  | .tooLong length =>
    "invalid length " ++ toString length ++ ", expected fewer elements in array"
  | .notSingleKey => "invalid value: map, expected map with a single key"

/-- The message about a value given as JSON. -/
def jsonMessage (m : Mismatch) : String := m.message Json.numberFormat

end Mismatch

/-! ### Reading from JSON -/

namespace Json

/-- What a value is found to be. -/
def found : Json → Found
  | .null => .null
  | .bool b => .bool b
  | .int n => .int n
  | .float x => .float x
  | .string s => .string s
  | .array _ => .sequence
  | .object _ => .map

def mismatch {α : Type} (v : Json) (wanted : Wanted) : Except Mismatch α :=
  .error (.wrongType v.found wanted)

def asText : Json → Except Mismatch String
  | .string s => .ok s
  | v => v.mismatch .string

def asBool : Json → Except Mismatch Bool
  | .bool b => .ok b
  | v => v.mismatch .boolean

def asTexts : Json → Except Mismatch (List String)
  | .array items => items.mapM asText
  | v => v.mismatch .sequence

/-- The fields of an object in the order of their names. -/
def byName (fields : List (String × Json)) : List (String × Json) :=
  Order.sort (fun a b => a.1 ≤ b.1) fields

/-- A field that has to be there. -/
def required (fields : List (String × Json)) (name : String) : Except Mismatch Json :=
  match fields.lookup name with
  | some v => .ok v
  | none => .error (.missingField name)

end Json

end Receiverless
