/-
  Receiverless/Toml/Document.lean
  ===============================
  **Documents.**  A document is a sequence of lines: assignments, headers in
  single brackets that open a table, headers in double brackets that open the
  next table of a series, comments and blank lines.

  A table may be opened once.  A header may still open a table that a longer
  header implied; the table then counts as opened here, behind its siblings.
  Arrays, tables between braces and the parts of a key nest less than eighty
  levels deep.
-/
import Receiverless.Toml.Numbers

namespace Receiverless.Toml

open Scanner

/-- No nesting reaches this depth. -/
def nestingLimit : Nat := 80

/-! ### Keys -/

def isKeyChar (c : Char) : Bool := c.isAlpha || c.isDigit || c == '-' || c == '_'

def simpleKey : Scanner String := do
  match ← peek with
  | some '"' | some '\'' => scanString lineString
  | _ => do
    let cs ← Scanner.takeWhile isKeyChar
    require (!cs.isEmpty)
    return String.ofList cs

/-- The parts of a key behind its first one. -/
def moreKeys : Nat → Scanner (List String)
  | 0 => pure []
  | fuel + 1 => do
    match ← peek with
    | some '.' => do
      let _ ← next
      spaces
      let k ← simpleKey
      spaces
      return k :: (← moreKeys fuel)
    | _ => return []

/-- A key with the spaces around it: its path and its last part. -/
def key : Scanner (List String × String) := do
  spaces
  let first ← simpleKey
  spaces
  let parts := first :: (← moreKeys (← get).length)
  require (parts.length < nestingLimit)
  return (parts.dropLast, parts.getLastD first)

/-! ### Values -/

/-- The elements of an array behind its opening bracket.  A comma may follow the last one. -/
def arrayItems (value : Scanner Value) : Nat → Scanner (List Value)
  | 0 => failure
  | fuel + 1 => do
    skipBlank
    if (← peek) == some ']' then
      let _ ← next
      return []
    let v ← value
    skipBlank
    match ← next with
    | ']' => return [v]
    | ',' => return v :: (← arrayItems value fuel)
    | _ => failure

/-- A key and its value inside braces. -/
def inlineEntry (value : Scanner Value) (entries : Entries) : Scanner Entries := do
  let (path, k) ← key
  char '='
  spaces
  let v ← value
  spaces
  (entries.insertDotted path k v : Option Entries)

/-- The entries of a table between braces.  No comma may follow the last one. -/
def inlineEntries (value : Scanner Value) : Nat → Entries → Scanner Entries
  | 0, _ => failure
  | fuel + 1, entries => do
    let entries ← inlineEntry value entries
    match ← next with
    | '\x7d' => return entries
    | ',' => inlineEntries value fuel entries
    | _ => failure

/-- A value that holds no others. -/
def scalar : Scanner Value := do
  match ← peek with
  | some '"' | some '\'' => return .string (← scanString anyString)
  | some 't' => do
    chars "true"
    return .boolean true
  | some 'f' => do
    chars "false"
    return .boolean false
  | some 'i' | some 'n' => specialFloat
  | _ => numberOrDate

/-- A value inside which at most the given number of levels are opened. -/
def value : Nat → Scanner Value
  | 0 => scalar
  | budget + 1 => do
    match ← peek with
    | some '[' => do
      let _ ← next
      return .array (← arrayItems (value budget) (← get).length)
    | some '\x7b' => do
      let _ ← next
      spaces
      if (← peek) == some '\x7d' then
        let _ ← next
        return .table .inline []
      return .table .inline (← inlineEntries (value budget) (← get).length [])
    | _ => scalar

/-! ### Lines -/

/-- What has been read so far: the finished tables, and the table that is open. -/
structure Reading where
  root : Entries := []
  path : List String := []
  ofSeries : Bool := false
  current : Entries := []

namespace Reading

/-- Put the open table into its place. -/
def close (r : Reading) : Option Entries :=
  match r.path.getLast? with
  | none => some r.current
  | some k => do
    let (root, ()) ← Entries.modifyAt false (fun _ entries =>
      if r.ofSeries then
        match entries.lookup k with
        | some (.series tables) =>
          some (entries.replace k (.series (tables ++ [.table .declared r.current])), ())
        | _ => none
      else some (entries ++ [(k, .table .declared r.current)], ())) r.path.dropLast .declared r.root
    return root

/-- Open a table by a header in single brackets. -/
def openTable (path : List String) (k : String) (r : Reading) : Option Reading := do
  let root ← r.close
  let (root, current) ← Entries.modifyAt false (fun _ entries =>
    match entries.lookup k with
    | none => some (entries, [])
    | some (.table .implied inner) => some (entries.erase k, inner)
    | some _ => none) path .declared root
  return { root, path := path ++ [k], ofSeries := false, current }

/-- Open the next table of a series by a header in double brackets. -/
def openSeries (path : List String) (k : String) (r : Reading) : Option Reading := do
  let root ← r.close
  let (root, ()) ← Entries.modifyAt false (fun _ entries =>
    match entries.lookup k with
    | none => some (entries ++ [(k, .series [])], ())
    | some (.series _) => some (entries, ())
    | some _ => none) path .declared root
  return { root, path := path ++ [k], ofSeries := true, current := [] }

/-- Add an assignment to the open table. -/
def assign (path : List String) (k : String) (v : Value) (r : Reading) : Option Reading := do
  return { r with current := ← r.current.insertDotted path k v }

end Reading

/-- A header with its line. -/
def header (r : Reading) : Scanner Reading := do
  match ← get with
  | '[' :: '[' :: rest => do
    set rest
    let (path, k) ← key
    chars "]]"
    restOfLine
    (r.openSeries path k : Option Reading)
  | _ => do
    char '['
    let (path, k) ← key
    char ']'
    restOfLine
    (r.openTable path k : Option Reading)

/-- An assignment with its line. -/
def assignment (r : Reading) : Scanner Reading := do
  let (path, k) ← key
  char '='
  spaces
  let v ← value (nestingLimit - 1)
  restOfLine
  (r.assign path k v : Option Reading)

/-- All lines. -/
def lines : Nat → Reading → Scanner Reading
  | 0, r => pure r
  | fuel + 1, r => do
    spaces
    match ← peek with
    | none => return r
    | some '#' => do
      comment
      lineEnd
      lines fuel r
    | some '\n' | some '\r' => do
      newline
      lines fuel r
    | some '[' => do lines fuel (← header r)
    | some _ => do lines fuel (← assignment r)

/-- The entries of a document, unless it is malformed.  A byte order mark in front is passed
    over. -/
def parse (s : String) : Option Entries := do
  let cs := match s.toList with
    | '\ufeff' :: cs => cs
    | cs => cs
  let (r, _) ← (lines (cs.length + 1) {}).run cs
  r.close

end Receiverless.Toml
