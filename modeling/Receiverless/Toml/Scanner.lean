/-
  Receiverless/Toml/Scanner.lean
  ==============================
  **Scanning characters.**  A scanner reads from the front of a list of
  characters and either fails or gives a result and the characters left.
-/

namespace Receiverless.Toml

/-- Read from the front of the input, or fail. -/
abbrev Scanner := StateT (List Char) Option

namespace Scanner

/-- The next character, which stays. -/
def peek : Scanner (Option Char) := do return (← get).head?

/-- The next character. -/
def next : Scanner Char := do
  match ← get with
  | [] => failure
  | c :: cs =>
    set cs
    return c

/-- The next character if it satisfies `p`. -/
def satisfy (p : Char → Bool) : Scanner Char := do
  let c ← next
  if p c then return c else failure

/-- A fixed character. -/
def char (c : Char) : Scanner Unit := do
  let _ ← satisfy (· == c)

/-- A fixed text. -/
def chars (s : String) : Scanner Unit := s.toList.forM char

/-- The longest run of characters that satisfy `p`. -/
def takeWhile (p : Char → Bool) : Scanner (List Char) := do
  let cs ← get
  set (cs.dropWhile p)
  return cs.takeWhile p

/-- Exactly `n` decimal digits, as a number. -/
def digits (n : Nat) : Scanner Nat := do
  let cs ← get
  let ds := cs.take n
  if ds.length = n && ds.all Char.isDigit then
    set (cs.drop n)
    return ds.foldl (fun v c => v * 10 + (c.toNat - 48)) 0
  else failure

/-- What `s` reads, or nothing read if it fails. -/
def optional {α : Type} (s : Scanner α) : Scanner (Option α) :=
  (some <$> s) <|> pure none

/-- Fail unless a condition holds. -/
def require (b : Bool) : Scanner Unit := if b then pure () else failure

end Scanner

/-! ### White space, line ends and comments -/

def isSpace (c : Char) : Bool := c == ' ' || c == '\t'

/-- Characters allowed in comments and literal strings: all but controls, with the tab allowed. -/
def isPrintable (c : Char) : Bool := c == '\t' || (32 ≤ c.toNat && c.toNat != 127)

def spaces : Scanner Unit := modify (·.dropWhile isSpace)

/-- A line feed, or a carriage return and a line feed. -/
def newline : Scanner Unit := do
  match ← get with
  | '\n' :: cs => set cs
  | '\r' :: '\n' :: cs => set cs
  | _ => failure

def comment : Scanner Unit := do
  Scanner.char '#'
  let _ ← Scanner.takeWhile isPrintable

/-- A line end or the end of the input. -/
def lineEnd : Scanner Unit := do
  if (← get).isEmpty then return () else newline

/-- What may follow on a line: spaces, a comment, the line end. -/
def restOfLine : Scanner Unit := do
  spaces
  let _ ← Scanner.optional comment
  lineEnd

/-- Spaces, line ends and whole comment lines, as between the elements of an array. -/
def blankLines : Nat → Scanner Unit
  | 0 => pure ()
  | fuel + 1 => do
    spaces
    match ← Scanner.peek with
    | some '#' => do
      comment
      newline
      blankLines fuel
    | some '\n' | some '\r' => do
      newline
      blankLines fuel
    | _ => return ()

/-- All white space, line ends and comments in front of the next token. -/
def skipBlank : Scanner Unit := do blankLines (← get).length

end Receiverless.Toml
