/-
  Receiverless/Toml/Strings.lean
  ==============================
  **Strings.**  Basic strings, in double quotes, have backslash escapes; literal
  strings, in single quotes, have none.  Both exist in a form that spans lines,
  between three quotes: a line end right behind the opening quotes is dropped,
  every other line end reads as a line feed, and up to two quotes may stand
  right in front of the closing ones.
-/
import Receiverless.Toml.Scanner

namespace Receiverless.Toml

def isHexDigit (c : Char) : Bool :=
  c.isDigit || ('a' ≤ c && c ≤ 'f') || ('A' ≤ c && c ≤ 'F')

def hexDigitValue (c : Char) : Nat :=
  if c.isDigit then c.toNat - 48 else if 'a' ≤ c then c.toNat - 87 else c.toNat - 55

/-- The character with a code point given in hexadecimal; surrogates are no characters. -/
def charOfHex? (ds : List Char) : Option Char :=
  let n := ds.foldl (fun v c => v * 16 + hexDigitValue c) 0
  if ds.all isHexDigit && (n < 0xd800 || (0xdfff < n && n < 0x110000)) then some (Char.ofNat n)
  else none

/-- The character of a one-letter escape. -/
def shortEscape? : Char → Option Char
  | 'b' => some (Char.ofNat 8)
  | 't' => some '\t'
  | 'n' => some '\n'
  | 'f' => some (Char.ofNat 12)
  | 'r' => some '\r'
  | '"' => some '"'
  | '\\' => some '\\'
  | _ => none

/-- Put a character in front of the text that a scan gives. -/
def withChar (c : Char) (r : Option (List Char × List Char)) : Option (List Char × List Char) :=
  r.map fun (text, rest) => (c :: text, rest)

/-- The rest of a basic string on one line, and what follows it. -/
def basicBody : List Char → Option (List Char × List Char)
  | [] => none
  | '"' :: rest => some ([], rest)
  | '\\' :: 'u' :: a :: b :: c :: d :: rest => do
    withChar (← charOfHex? [a, b, c, d]) (basicBody rest)
  | '\\' :: 'U' :: a :: b :: c :: d :: e :: f :: g :: h :: rest => do
    withChar (← charOfHex? [a, b, c, d, e, f, g, h]) (basicBody rest)
  | '\\' :: c :: rest => do withChar (← shortEscape? c) (basicBody rest)
  | c :: rest => if isPrintable c then withChar c (basicBody rest) else none

/-- The rest of a literal string on one line, and what follows it. -/
def literalBody : List Char → Option (List Char × List Char)
  | [] => none
  | '\'' :: rest => some ([], rest)
  | c :: rest => if isPrintable c then withChar c (literalBody rest) else none

/-- Whether spaces and then a line end come next. -/
def endsLine (cs : List Char) : Bool :=
  match cs.dropWhile isSpace with
  | '\n' :: _ => true
  | '\r' :: '\n' :: _ => true
  | _ => false

/-- The rest of a basic string that spans lines, and what follows it.  A backslash at the end of a
    line joins lines: white space up to the next visible character is left out, which is what
    `joining` says is going on. -/
def basicLines : Bool → List Char → Option (List Char × List Char)
  | _, [] => none
  | true, ' ' :: rest => basicLines true rest
  | true, '\t' :: rest => basicLines true rest
  | true, '\n' :: rest => basicLines true rest
  | true, '\r' :: '\n' :: rest => basicLines true rest
  | _, '"' :: '"' :: '"' :: '"' :: '"' :: rest => some (['"', '"'], rest)
  | _, '"' :: '"' :: '"' :: '"' :: rest => some (['"'], rest)
  | _, '"' :: '"' :: '"' :: rest => some ([], rest)
  | _, '\\' :: 'u' :: a :: b :: c :: d :: rest => do
    withChar (← charOfHex? [a, b, c, d]) (basicLines false rest)
  | _, '\\' :: 'U' :: a :: b :: c :: d :: e :: f :: g :: h :: rest => do
    withChar (← charOfHex? [a, b, c, d, e, f, g, h]) (basicLines false rest)
  | _, '\\' :: c :: rest =>
    match shortEscape? c with
    | some e => withChar e (basicLines false rest)
    | none => if endsLine (c :: rest) then basicLines true (c :: rest) else none
  | _, '\n' :: rest => withChar '\n' (basicLines false rest)
  | _, '\r' :: '\n' :: rest => withChar '\n' (basicLines false rest)
  | _, c :: rest => if isPrintable c then withChar c (basicLines false rest) else none

/-- The rest of a literal string that spans lines, and what follows it. -/
def literalLines : List Char → Option (List Char × List Char)
  | [] => none
  | '\'' :: '\'' :: '\'' :: '\'' :: '\'' :: rest => some (['\'', '\''], rest)
  | '\'' :: '\'' :: '\'' :: '\'' :: rest => some (['\''], rest)
  | '\'' :: '\'' :: '\'' :: rest => some ([], rest)
  | '\n' :: rest => withChar '\n' (literalLines rest)
  | '\r' :: '\n' :: rest => withChar '\n' (literalLines rest)
  | c :: rest => if isPrintable c then withChar c (literalLines rest) else none

/-- Input without a line end at its start. -/
def dropNewline : List Char → List Char
  | '\n' :: rest => rest
  | '\r' :: '\n' :: rest => rest
  | cs => cs

/-- A string that stays on its line, as it may stand for a key. -/
def lineString (cs : List Char) : Option (List Char × List Char) :=
  match cs with
  | '"' :: rest => basicBody rest
  | '\'' :: rest => literalBody rest
  | _ => none

/-- Any string. -/
def anyString (cs : List Char) : Option (List Char × List Char) :=
  match cs with
  | '"' :: '"' :: '"' :: rest => basicLines false (dropNewline rest)
  | '\'' :: '\'' :: '\'' :: rest => literalLines (dropNewline rest)
  | cs => lineString cs

/-- A string as a scanner. -/
def scanString (read : List Char → Option (List Char × List Char)) : Scanner String := fun cs =>
  (read cs).map fun (text, rest) => (String.ofList text, rest)

end Receiverless.Toml
