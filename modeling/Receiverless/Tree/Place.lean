/-
  Receiverless/Tree/Place.lean
  ============================
  **Where a construct stands in its source file.**  Positions count lines and
  columns; the all-zero span is used for constructs that have no source text.
-/

namespace Receiverless

/-- A line and a column. -/
structure Position where
  line : Nat := 0
  column : Nat := 0
deriving DecidableEq, Repr

/-- The stretch of text between two positions. -/
structure Span where
  start : Position := {}
  stop : Position := {}
deriving DecidableEq, Repr

instance : Inhabited Span := ⟨{}⟩

end Receiverless
