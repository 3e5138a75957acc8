/-
  Receiverless/Settings/Files.lean
  ================================
  **A directory tree.**  Enough of a file system to say what reading a path
  gives: names are looked up component by component, `.` and `..` are followed,
  and names and paths have a greatest length in bytes.
-/

namespace Receiverless

/-- Why a file cannot be read as text. -/
inductive ReadError where
  | notFound
  | isDirectory
  | notADirectory
  | nameTooLong
  | notText
deriving DecidableEq, Repr

def ReadError.text : ReadError → String
  | .notFound => "No such file or directory (os error 2)"
  | .isDirectory => "Is a directory (os error 21)"
  | .notADirectory => "Not a directory (os error 20)"
  | .nameTooLong => "File name too long (os error 36)"
  | .notText => "stream did not contain valid UTF-8"

/-- A directory tree as far as reading one file from it needs: contents and names. -/
inductive FileTree where
  | file (contents : ByteArray)
  | directory (entries : List (String × FileTree))

namespace FileTree

/-- The greatest length of one name. -/
def nameLimit : Nat := 255

/-- Paths are shorter than this. -/
def pathLimit : Nat := 4096

/-- Follow the components of a path.  The directories above the current place are in `above`; the
    outermost one is its own parent. -/
def follow (above : List FileTree) (here : FileTree) : List String → Except ReadError FileTree
  | [] => .ok here
  | c :: cs =>
    match here with
    | .file _ => .error .notADirectory
    | .directory entries =>
      if c = "" ∨ c = "." then follow above here cs
      else if c = ".." then
        match above with
        | [] => follow [] here cs
        | parent :: rest => follow rest parent cs
      else if nameLimit < c.utf8ByteSize then .error .nameTooLong
      else
        match entries.lookup c with
        | none => .error .notFound
        | some inner => follow (here :: above) inner cs

/-- Read a file.  Relative paths start at `workingDirectory`, whose surroundings are not known. -/
def read (workingDirectory : FileTree) (path : String) : Except ReadError ByteArray := do
  if pathLimit ≤ path.utf8ByteSize then throw .nameTooLong
  if path.isEmpty then throw .notFound
  let outside := FileTree.directory []
  let found ← if path.startsWith "/" then follow [] outside (path.splitOn "/")
    else follow [outside] workingDirectory (path.splitOn "/")
  match found with
  | .file contents => return contents
  | .directory _ => throw .isDirectory

end FileTree

end Receiverless
