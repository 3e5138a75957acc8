/-
  Receiverless/Tree/Modifiers.lean
  ================================
  **Declaration modifiers.**  A modifier is a keyword together with the text
  that stands in front of it, so a list of modifiers can be printed exactly as
  it was written.  The keywords have a canonical order, the one style checkers
  expect; `rank` numbers them by it.
-/
import Receiverless.Order

namespace Receiverless

/-- A modifier keyword.  The constructors stand in canonical order. -/
inductive Keyword where
  | «public» | «protected» | «private» | abstract | default | static | sealed | nonSealed
  | final | transient | volatile | synchronized | native | strictfp
deriving DecidableEq, Repr

namespace Keyword

/-- All keywords in canonical order. -/
def all : List Keyword :=
  [.public, .protected, .private, .abstract, .default, .static, .sealed, .nonSealed,
    .final, .transient, .volatile, .synchronized, .native, .strictfp]

/-- The word as it is written in source. -/
def text : Keyword → String
  | .public => "public"
  | .protected => "protected"
  | .private => "private"
  | .abstract => "abstract"
  | .default => "default"
  | .static => "static"
  | .sealed => "sealed"
  | .nonSealed => "non-sealed"
  | .final => "final"
  | .transient => "transient"
  | .volatile => "volatile"
  | .synchronized => "synchronized"
  | .native => "native"
  | .strictfp => "strictfp"

/-- The keyword that is written so, if there is one. -/
def ofText? (s : String) : Option Keyword :=
  all.find? (·.text == s)

/-- Position in the canonical order. -/
def rank : Keyword → Nat
  | .public => 0
  | .protected => 1
  | .private => 2
  | .abstract => 3
  | .default => 4
  | .static => 5
  | .sealed => 6
  | .nonSealed => 7
  | .final => 8
  | .transient => 9
  | .volatile => 10
  | .synchronized => 11
  | .native => 12
  | .strictfp => 13

end Keyword

/-- A keyword and the text in front of it. -/
structure Modifier where
  lead : String
  keyword : Keyword
deriving DecidableEq, Repr

/-- A modifier list, in source order. -/
abbrev Modifiers := List Modifier

namespace Modifiers

/-- The keywords of a list, in order. -/
def keywords (ms : Modifiers) : List Keyword := ms.map Modifier.keyword

/-- Whether a keyword occurs in the list. -/
def has (ms : Modifiers) (k : Keyword) : Bool := ms.any (·.keyword == k)

/-- The list as it is printed: every keyword after its own lead. -/
def render : Modifiers → String
  | [] => ""
  | m :: ms => m.lead ++ m.keyword.text ++ render ms

/-- Give the first modifier the lead `lead` and every other one a single space. -/
def spaceOut (lead : String) : Modifiers → Modifiers
  | [] => []
  | m :: ms => { m with lead := lead } :: ms.map fun n => { n with lead := " " }

/-- Keywords laid out in the usual way: nothing in front of the first, one space between. -/
def ofKeywords (ks : List Keyword) : Modifiers :=
  spaceOut "" (ks.map fun k => ⟨"", k⟩)

/-- Sort into canonical order; equal keywords keep their order. -/
def inCanonicalOrder (ms : Modifiers) : Modifiers :=
  Order.sort (fun a b => a.keyword.rank ≤ b.keyword.rank) ms

/-- Where `static` belongs: in front of the first keyword that ranks after it, else at the end. -/
def staticIndex (ms : Modifiers) : Nat :=
  ms.findIdx fun m => Keyword.static.rank < m.keyword.rank

/-- The text in front of the whole list. -/
def leading : Modifiers → String
  | [] => ""
  | m :: _ => m.lead

end Modifiers

/-- What becomes of the other keywords when one is inserted. -/
inductive KeywordOrder where
  /-- the whole list is sorted -/
  | canonical
  /-- the others stay where they are -/
  | preserve
deriving DecidableEq, Repr

namespace Modifiers

/-- Insert `static` at its place, and restore the usual spacing.  A list that has the keyword
    already stays as it is. -/
def addStatic (order : KeywordOrder) (ms : Modifiers) : Modifiers :=
  if ms.has .static then ms
  else
    let inserted := ms.insertIdx ms.staticIndex ⟨"", .static⟩
    let ordered := match order with
      | .canonical => inCanonicalOrder inserted
      | .preserve => inserted
    spaceOut ms.leading ordered

end Modifiers

end Receiverless
