/-
  Receiverless/Layout/Basic.lean
  ==============================
  **Text with margins.**  Printed source is put together from chunks: pieces of
  text, line ends, and margins.  A margin stands at the start of a line and is
  four spaces wide for each level of its depth.  Keeping margins apart from
  text lets us say what a change of depth does to a printed construct.
-/

namespace Receiverless

/-- A piece of printed source. -/
inductive Chunk where
  | text (s : String)
  | newline
  | margin (depth : Nat)
deriving DecidableEq, Repr

/-- Printed source. -/
abbrev Layout := List Chunk

/-- The four spaces of one level. -/
def indentUnit : String := "    "

/-- The spaces of a margin. -/
def marginText : Nat → String
  | 0 => ""
  | depth + 1 => indentUnit ++ marginText depth

def Chunk.render : Chunk → String
  | .text s => s
  | .newline => "\n"
  | .margin depth => marginText depth

namespace Layout

def render (l : Layout) : String := String.join (l.map Chunk.render)

def text (s : String) : Layout := [.text s]

/-- Layouts with a separator between them. -/
def separated (separator : String) : List Layout → Layout
  | [] => []
  | [l] => l
  | l :: ls => l ++ text separator ++ separated separator ls

/-- A layout on a line of its own. -/
def line (depth : Nat) (l : Layout) : Layout := .margin depth :: l ++ [.newline]

/-- Lines between braces; the closing brace stands at the margin of the construct. -/
def braced (depth : Nat) (lines : Layout) : Layout :=
  .text "\x7b" :: .newline :: lines ++ [.margin depth, .text "\x7d"]

/-- The body of a control statement: a block stays on the line, anything else goes on the next line,
    one level deeper. -/
def body (isBlock : Bool) (inner : Nat → Layout) (depth : Nat) : Layout :=
  if isBlock then inner depth else .newline :: .margin (depth + 1) :: inner (depth + 1)

/-- What comes between the body of a control statement and the keyword that continues it. -/
def afterBody (isBlock : Bool) (depth : Nat) : Layout :=
  if isBlock then text " " else [.newline, .margin depth]

end Layout

end Receiverless
