/-
  Receiverless/Text/Blank.lean
  ============================
  **Blank characters.**  The characters with the Unicode property White_Space.
-/

namespace Receiverless.Text

/-- The ranges of the property White_Space, by code point. -/
def blankRanges : List (Nat × Nat) :=
  [(0x09, 0x0d), (0x20, 0x20), (0x85, 0x85), (0xa0, 0xa0), (0x1680, 0x1680), (0x2000, 0x200a),
    (0x2028, 0x2029), (0x202f, 0x202f), (0x205f, 0x205f), (0x3000, 0x3000)]

def isBlank (c : Char) : Bool :=
  blankRanges.any fun (low, high) => low ≤ c.toNat && c.toNat ≤ high

/-- A text without the blanks at its start. -/
def dropBlanks (s : String) : String := String.ofList (s.toList.dropWhile isBlank)

end Receiverless.Text
