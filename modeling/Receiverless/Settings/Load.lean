/-
  Receiverless/Settings/Load.lean
  ===============================
  **Loading settings.**  Settings come from the text of a TOML document or from
  a file.  A file that cannot be read, a malformed document and a document with
  wrong settings are told apart.
-/
import Receiverless.Settings.Decode
import Receiverless.Settings.Files

namespace Receiverless

/-- Why settings cannot be loaded. -/
inductive SettingsError where
  | unreadable (path : String) (reason : ReadError)
  | malformed
  | mismatch (reason : Mismatch)
deriving DecidableEq, Repr

/-- The message of an error; a malformed document has none.  Numbers are shown without exponents. -/
def SettingsError.message? : SettingsError → Option String
  | .unreadable path reason => some ("Failed to read config file " ++ path ++ ": " ++ reason.text)
  | .malformed => none
  | .mismatch reason =>
    some ("Invalid config: " ++ reason.message Decimal.Format.positionalOnly)

namespace Settings

/-- The key of the settings in a document. -/
def documentKey : String := "staticize"

/-- The settings in a TOML document, the defaults if it has none. -/
def ofDocument (source : String) : Except SettingsError Settings :=
  match Toml.parse source with
  | none => .error .malformed
  | some entries =>
    match entries.lookup documentKey with
    | none => .ok {}
    | some v => (ofToml v).mapError .mismatch

/-- The settings in a file, given what reading the file gave. -/
def ofFile (path : String) (contents : Except ReadError ByteArray) :
    Except SettingsError Settings :=
  match contents with
  | .error reason => .error (.unreadable path reason)
  | .ok bytes =>
    match String.fromUTF8? bytes with
    | none => .error (.unreadable path .notText)
    | some source => ofDocument source

end Settings

end Receiverless
