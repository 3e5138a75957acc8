/-
  Receiverless/Toml/Basic.lean
  ============================
  **TOML values and tables.**  A table remembers how it came to be, because
  that decides who may add to it later: a table opened by its own header, a
  table that a longer header implied, a table made by dotted keys, or a table
  written between braces.  Tables keep their entries in order.
-/
import Receiverless.Json.Basic

namespace Receiverless.Toml

/-- How a table came to be. -/
inductive TableForm where
  | declared
  | implied
  | dotted
  | inline
deriving DecidableEq, Repr

/-- A TOML value.  Dates and times are recognized and not kept. -/
inductive Value where
  | string (s : String)
  | integer (n : Int)
  | float (x : Binary64)
  | boolean (b : Bool)
  | datetime
  | array (items : List Value)
  | table (form : TableForm) (entries : List (String × Value))
  /-- the tables under repeated headers in double brackets -/
  | series (tables : List Value)

/-- The entries of a table, in order. -/
abbrev Entries := List (String × Value)

mutual

/-- A value as readers of settings see it.  A date is a map with a single reserved key. -/
def Value.toJson : Value → Json
  | .string s => .string s
  | .integer n => .int n
  | .float x => .float x
  | .boolean b => .bool b
  | .datetime => .object [("$__toml_private_datetime", .string "")]
  | .array items => .array (itemsToJson items)
  | .table _ entries => .object (entriesToJson entries)
  | .series tables => .array (itemsToJson tables)

def itemsToJson : List Value → List Json
  | [] => []
  | v :: vs => v.toJson :: itemsToJson vs

def entriesToJson : List (String × Value) → List (String × Json)
  | [] => []
  | (k, v) :: rest => (k, v.toJson) :: entriesToJson rest

end

/-! ### Adding to tables -/

namespace Entries

/-- Replace the value of a key that is there, in its place. -/
def replace (key : String) (v : Value) : Entries → Entries
  | [] => []
  | (k, w) :: rest => if k = key then (k, v) :: rest else (k, w) :: replace key v rest

def erase (key : String) (entries : Entries) : Entries := entries.filter (·.1 != key)

/-- Go down a path of keys and change the entries of the table at its end.  Missing tables are made
    on the way; in a series the last table is taken.  Dotted keys may not enter a table that has a
    header of its own, and nothing may enter a value or a table between braces. -/
def modifyAt {α : Type} (byDots : Bool) (f : TableForm → Entries → Option (Entries × α)) :
    List String → TableForm → Entries → Option (Entries × α)
  | [], form, entries => f form entries
  | key :: path, _, entries =>
    match entries.lookup key with
    | none => do
      let form := if byDots then TableForm.dotted else .implied
      let (inner, a) ← modifyAt byDots f path form []
      return (entries ++ [(key, .table form inner)], a)
    | some (.table form inner) =>
      if form = .inline ∨ (byDots ∧ form = .declared) then none
      else do
        let (inner, a) ← modifyAt byDots f path form inner
        return (entries.replace key (.table form inner), a)
    | some (.series tables) =>
      match tables.getLast? with
      | some (.table form inner) => do
        let (inner, a) ← modifyAt byDots f path form inner
        return (entries.replace key (.series (tables.dropLast ++ [.table form inner])), a)
      | _ => none
    | some _ => none

/-- Add a value under a dotted key.  The table at the end of the path must have been made by dotted
    keys if there is a path, and must not have the key. -/
def insertDotted (path : List String) (key : String) (v : Value) (entries : Entries) :
    Option Entries := do
  let (entries, ()) ← modifyAt true (fun form inner =>
    if (form == .dotted) == path.isEmpty then none
    else if (inner.lookup key).isSome then none
    else some (inner ++ [(key, v)], ())) path .declared entries
  return entries

end Entries

end Receiverless.Toml
