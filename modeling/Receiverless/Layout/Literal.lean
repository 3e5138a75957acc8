/-
  Receiverless/Layout/Literal.lean
  ================================
  **Literals in source form.**  Strings and characters are quoted with
  backslash escapes; a `long` ends in `L` and a `float` in `f`.
-/
import Receiverless.Tree.Basic
import Receiverless.Decimal.Format

namespace Receiverless.Literal

/-- Floating-point literals have the fewest digits that read back, with an exponent from `1e16` on
    and below `1e-4`. -/
def floatFormat : Decimal.Format where
  positional e := -4 ≤ e && e < 16
  tie := .awayFromZero

/-- A character inside a string literal. -/
def escapeInString : Char → List Char
  | '"' => ['\\', '"']
  | '\\' => ['\\', '\\']
  | '\n' => ['\\', 'n']
  | '\t' => ['\\', 't']
  | c => [c]

/-- A character inside a character literal. -/
def escapeInChar : Char → List Char
  | '\'' => ['\\', '\'']
  | '\\' => ['\\', '\\']
  | '\n' => ['\\', 'n']
  | c => [c]

/-- A string in double quotes. -/
def quoted (s : String) : String :=
  String.ofList ('"' :: s.toList.flatMap escapeInString ++ ['"'])

/-- A character in single quotes. -/
def quotedChar (c : Char) : String :=
  String.ofList ('\'' :: escapeInChar c ++ ['\''])

def text : Literal → String
  | .int n => toString n
  | .long n => toString n ++ "L"
  | .float x => floatFormat.text x ++ "f"
  | .double x => floatFormat.text x
  | .string s => quoted s
  | .char c => quotedChar c
  | .bool true => "true"
  | .bool false => "false"
  | .null => "null"

end Receiverless.Literal
