/-
  Receiverless/Json/Decode.lean
  =============================
  **Signatures and keywords from JSON.**  A record is an object with named
  fields or an array of its fields in order.  The fields of an object are looked
  at in the order of their names and the first wrong one is reported; only then
  is a missing field reported, in the order of declaration.  Fields with other
  names are passed over.
-/
import Receiverless.Mismatch
import Receiverless.Pass.Changes
import Receiverless.Tree.Modifiers

namespace Receiverless

/-- Report an array with more elements than the record has fields. -/
def noMoreThan {α : Type} (size : Nat) (items : List Json) (a : α) : Except Mismatch α :=
  if size < items.length then .error (.tooLong items.length) else .ok a

namespace FieldSig

def recordName : String := "FieldSignature"

def ofFields (fields : List (String × Json)) : Except Mismatch FieldSig := do
  for (name, v) in fields do
    if name ∈ ["owner", "name", "type"] then
      let _ ← v.asText
  let owner ← (← Json.required fields "owner").asText
  let name ← (← Json.required fields "name").asText
  let type ← (← Json.required fields "type").asText
  return ⟨owner, name, type⟩

def ofItems : List Json → Except Mismatch FieldSig
  | owner :: name :: type :: _ => return ⟨← owner.asText, ← name.asText, ← type.asText⟩
  | items => do
    for v in items do
      let _ ← v.asText
    throw (.tooShort items.length recordName 3)

def ofJson : Json → Except Mismatch FieldSig
  | .object fields => ofFields (Json.byName fields)
  | .array items => do noMoreThan 3 items (← ofItems items)
  | v => v.mismatch (.record recordName)

end FieldSig

namespace MethodSig

def recordName : String := "MethodSignature"

def ofFields (fields : List (String × Json)) : Except Mismatch MethodSig := do
  for (name, v) in fields do
    if name = "params" then
      let _ ← v.asTexts
    else if name ∈ ["owner", "name", "return_type"] then
      let _ ← v.asText
  let owner ← (← Json.required fields "owner").asText
  let name ← (← Json.required fields "name").asText
  let params ← (← Json.required fields "params").asTexts
  let result ← (← Json.required fields "return_type").asText
  return ⟨owner, name, params, result⟩

def ofItems : List Json → Except Mismatch MethodSig
  | owner :: name :: params :: result :: _ =>
    return ⟨← owner.asText, ← name.asText, ← params.asTexts, ← result.asText⟩
  | items => do
    for v in items.take 2 do
      let _ ← v.asText
    for v in items.drop 2 do
      let _ ← v.asTexts
    throw (.tooShort items.length recordName 4)

def ofJson : Json → Except Mismatch MethodSig
  | .object fields => ofFields (Json.byName fields)
  | .array items => do noMoreThan 4 items (← ofItems items)
  | v => v.mismatch (.record recordName)

end MethodSig

namespace Keyword

def toJson (k : Keyword) : Json := .string k.text

def named (name : String) : Except Mismatch Keyword :=
  match ofText? name with
  | some k => .ok k
  | none => .error (.unknownVariant name (all.map text))

/-- A keyword is its word, or an object with the word as its only name and no value. -/
def ofJson : Json → Except Mismatch Keyword
  | .string s => named s
  | .object [(name, v)] => do
    let k ← named name
    match v with
    | .null => return k
    | v => v.mismatch .unit
  | .object _ => .error .notSingleKey
  | v => v.mismatch .variant

end Keyword

end Receiverless
