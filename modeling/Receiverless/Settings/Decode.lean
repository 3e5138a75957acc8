/-
  Receiverless/Settings/Decode.lean
  =================================
  **Settings from structured values.**  The settings are a record with two
  optional fields, given by name or by position.  An unknown name is refused.
  In a TOML document they stand under one key of the top level; everything else
  in the document is passed over.
-/
import Receiverless.Settings.Basic
import Receiverless.Mismatch
import Receiverless.Toml.Document

namespace Receiverless

namespace Settings

def recordName : String := "PassConfig"

def fieldNames : List String := ["reorder-modifiers", "dry-run"]

/-- Take over one named field. -/
def setField (s : Settings) (field : String × Json) : Except Mismatch Settings :=
  match field.1 with
  | "reorder-modifiers" => do return { s with reorderModifiers := ← field.2.asBool }
  | "dry-run" => do return { s with dryRun := ← field.2.asBool }
  | name => .error (.unknownField name fieldNames)

/-- Take over named fields in the order given. -/
def ofFields (fields : List (String × Json)) : Except Mismatch Settings :=
  fields.foldlM setField {}

/-- Fields by position; missing ones have their defaults. -/
def ofItems : List Json → Except Mismatch Settings
  | [] => .ok {}
  | [reorder] => do return { reorderModifiers := ← reorder.asBool }
  | reorder :: dry :: _ => do return ⟨← reorder.asBool, ← dry.asBool⟩

/-- Settings from a JSON value.  Fields are looked at in the order of their names, and an array may
    not be too long. -/
def ofJson : Json → Except Mismatch Settings
  | .object fields => ofFields (Json.byName fields)
  | .array items => do
    let s ← ofItems items
    if fieldNames.length < items.length then .error (.tooLong items.length) else .ok s
  | v => v.mismatch (.record recordName)

/-- Settings from a TOML value.  Fields are looked at in the order of the document, and further
    elements of an array are passed over. -/
def ofToml (v : Toml.Value) : Except Mismatch Settings :=
  match v.toJson with
  | .object fields => ofFields fields
  | .array items => ofItems items
  | v => v.mismatch (.record recordName)

/-- The settings as a JSON value. -/
def toJson (s : Settings) : Json :=
  .object [("reorder-modifiers", .bool s.reorderModifiers), ("dry-run", .bool s.dryRun)]

end Settings

end Receiverless
