/-
  Receiverless/Draft/Shorthand.lean
  =================================
  **Short forms of common nodes.**  Statements with block bodies and nodes
  without source positions.
-/
import Receiverless.Draft.Class

namespace Receiverless

namespace Expr

/-- A name that denotes no field. -/
def plainName (text : String) : Expr := .name { text }

/-- A name that denotes a field. -/
def fieldName (text : String) (field : FieldSig) : Expr := .name { text, field := some field }

/-- The current instance. -/
def current : Expr := .self none {}

/-- The instance of an enclosing class. -/
def outer (qualifier : String) : Expr := .self (some qualifier) {}

def fieldOf (target : Expr) (text : String) (field : FieldSig) : Expr :=
  .access target { text, field := some field } {}

/-- A field of the current instance. -/
def ownField (field : FieldSig) : Expr := current.fieldOf field.name field

/-- A call that is not resolved. -/
def unresolvedCall (receiver : Option Expr) (name : String) (args : List Expr) : Expr :=
  .call receiver name args none {}

def resolvedCall (receiver : Option Expr) (target : CallTarget) (args : List Expr) : Expr :=
  .call receiver target.signature.name args (some target) {}

def refersTo (target : Expr) (name : String) : Expr := .methodRef target name {}

/-- A lambda with untyped parameters. -/
def function (params : List String) (body : LambdaBody) : Expr :=
  .lambda (params.map fun name => { name }) body {}

def creation (type : String) (args : List Expr) : Expr := .create type args none {}

/-- An object of an anonymous class whose methods are declared in its type. -/
def anonymous (type own : String) (methods : List MethodDraft) : Expr :=
  .create type [] (some ⟨some own, methods.map fun d => .method (d.declareIn own)⟩) {}

/-- An array given by its elements. -/
def arrayWith (element : String) (elements : List Expr) : Expr :=
  .newArray element [] 1 (some elements)

end Expr

namespace Stmt

/-- A local variable with an initial value. -/
def variableOf (type name : String) (value : Expr) : Stmt :=
  .locals [] type [⟨name, some value, none, {}⟩]

def guarded (condition : Expr) (body : List Stmt) : Stmt := .ifElse condition (.block body) none

def whileBlock (condition : Expr) (body : List Stmt) : Stmt := .whileLoop condition (.block body)

def forEachBlock (type name : String) (iterable : Expr) (body : List Stmt) : Stmt :=
  .forEach (.plain type name) iterable (.block body)

/-- A try statement without handlers. -/
def withResources (resources : List Resource) (body : List Stmt) (final : Option (List Stmt)) :
    Stmt :=
  .tryCatch resources body [] final

end Stmt

/-- A colon group of a switch. -/
def Case.colon (labels : List Expr) (body : List Stmt) : Case := ⟨labels, false, body⟩

/-- An arrow group of a switch. -/
def Case.single (labels : List Expr) (body : Stmt) : Case := ⟨labels, true, [body]⟩

end Receiverless
