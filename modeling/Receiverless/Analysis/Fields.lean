/-
  Receiverless/Analysis/Fields.lean
  =================================
  **Instance fields.**  A field belongs to the instance exactly when its
  declaration lacks `static`.  Only the direct members of a class count: the
  fields of a nested class belong to that class.
-/
import Receiverless.Tree.Basic

namespace Receiverless

/-- The signatures of the resolved instance fields of a class. -/
def ClassDecl.instanceFields (c : ClassDecl) : List FieldSig :=
  (c.fields.filter fun f => !f.isStatic).flatMap fun f =>
    f.declarators.filterMap Declarator.signature

/-- The instance fields of all top-level classes. -/
def CompilationUnit.instanceFields (u : CompilationUnit) : List FieldSig :=
  u.classes.flatMap ClassDecl.instanceFields

end Receiverless
