/-
  Receiverless/Pass/Changes.lean
  ==============================
  **What a run changed.**  One entry per method made static, in source order,
  with its modifier list before and after.  The report is filled in a dry run
  too, where the unit itself stays as it is.
-/
import Receiverless.Tree.Place
import Receiverless.Tree.Signatures
import Receiverless.Json.Basic

namespace Receiverless

/-- A method that was, or would be, made static. -/
structure Change where
  method : MethodSig
  span : Span
  before : String
  after : String
deriving DecidableEq, Repr

/-- The changes of one run over one unit. -/
structure Report where
  path : Option String
  dryRun : Bool
  changes : List Change
deriving DecidableEq, Repr

def FieldSig.toJson (s : FieldSig) : Json :=
  .object [("owner", .string s.owner), ("name", .string s.name), ("type", .string s.type)]

def MethodSig.toJson (s : MethodSig) : Json :=
  .object [("owner", .string s.owner), ("name", .string s.name),
    ("params", .array (s.params.map .string)), ("return_type", .string s.result)]

def Position.toJson (p : Position) : Json :=
  .object [("line", .int p.line), ("column", .int p.column)]

def Span.toJson (s : Span) : Json :=
  .object [("start", s.start.toJson), ("end", s.stop.toJson)]

def Change.toJson (c : Change) : Json :=
  .object [("method", c.method.toJson), ("span", c.span.toJson), ("before", .string c.before),
    ("after", .string c.after)]

namespace Report

def isEmpty (r : Report) : Bool := r.changes.isEmpty

/-- The report as a JSON value; the path is left out if there is none. -/
def toJson (r : Report) : Json :=
  .object ((match r.path with
      | none => []
      | some p => [("source_path", .string p)]) ++
    [("dry_run", .bool r.dryRun), ("changes", .array (r.changes.map Change.toJson))])

/-- The report as indented JSON text. -/
def text (r : Report) : String := r.toJson.pretty

end Report

end Receiverless
