/-
  Receiverless/Tree/Edit.lean
  ===========================
  **Adding and removing declarations.**  Positions count from zero; a position
  outside the list changes nothing.
-/
import Receiverless.Tree.Basic

namespace Receiverless.CompilationUnit

def addImport (u : CompilationUnit) (name : String) : CompilationUnit :=
  { u with imports := u.imports ++ [name] }

def addClass (u : CompilationUnit) (c : ClassDecl) : CompilationUnit :=
  { u with classes := u.classes ++ [c] }

def removeClass (u : CompilationUnit) (i : Nat) : CompilationUnit :=
  { u with classes := u.classes.eraseIdx i }

/-- Change the members of one class. -/
def modifyMembers (u : CompilationUnit) (i : Nat) (f : List Member → List Member) :
    CompilationUnit :=
  { u with classes := u.classes.modify i fun c => { c with members := f c.members } }

def addMember (u : CompilationUnit) (i : Nat) (m : Member) : CompilationUnit :=
  u.modifyMembers i (· ++ [m])

def removeMember (u : CompilationUnit) (i j : Nat) : CompilationUnit :=
  u.modifyMembers i (·.eraseIdx j)

end Receiverless.CompilationUnit
