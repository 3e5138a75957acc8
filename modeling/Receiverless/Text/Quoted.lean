/-
  Receiverless/Text/Quoted.lean
  =============================
  **Texts in quotes, for messages.**  Quote, backslash and the common control
  characters have short escapes; other invisible characters are written by
  their code points in hexadecimal.
-/
import Receiverless.Text.Invisible

namespace Receiverless.Text

/-- The escape by code point. -/
def codePoint (c : Char) : List Char :=
  '\\' :: 'u' :: '\x7b' :: Nat.toDigits 16 c.toNat ++ ['\x7d']

/-- A character between quotes. -/
def showChar (c : Char) : List Char :=
  if c = '"' then ['\\', '"']
  else if c = '\\' then ['\\', '\\']
  else if c = '\n' then ['\\', 'n']
  else if c = '\r' then ['\\', 'r']
  else if c = '\t' then ['\\', 't']
  else if c.toNat = 0 then ['\\', '0']
  else if isInvisible c then codePoint c
  else [c]

/-- A text between quotes. -/
def quoted (s : String) : String :=
  String.ofList ('"' :: s.toList.flatMap showChar ++ ['"'])

end Receiverless.Text
