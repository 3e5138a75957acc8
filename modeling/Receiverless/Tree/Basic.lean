/-
  Receiverless/Tree/Basic.lean
  ============================
  **Syntax trees of source files.**  A compilation unit is a list of type
  declarations; these hold members, members hold statements, statements hold
  expressions, and through anonymous class bodies and block lambdas an
  expression can hold members and statements again.

  The tree is resolved as far as a resolver got: a name that denotes a field
  carries the field's signature, a call carries its target, a declaration its
  own signature.  Types are kept as they are written.

  A block is the list of its statements.  It has no span of its own, since the
  place of a block is never reported; what is said of spans is said of those of
  declarations, names and expressions.
-/
import Receiverless.Tree.Place
import Receiverless.Tree.Modifiers
import Receiverless.Tree.Signatures
import Receiverless.Decimal.Binary64

namespace Receiverless

/-! ### Leaves -/

/-- A literal.  Integer literals of both widths range over the 64-bit integers. -/
inductive Literal where
  | int (value : Int)
  | long (value : Int)
  | float (value : Binary64)
  | double (value : Binary64)
  | string (value : String)
  | char (value : Char)
  | bool (value : Bool)
  | null
deriving DecidableEq, Repr

/-- An occurrence of a name, with the field it denotes if it denotes one. -/
structure Name where
  text : String
  field : Option FieldSig := none
  span : Span := {}
deriving DecidableEq, Repr

/-- A formal parameter of a method, constructor, catch clause or for-each loop. -/
structure Param where
  modifiers : Modifiers := []
  type : String
  name : String
  varargs : Bool := false
deriving DecidableEq, Repr

/-- A parameter of a lambda; without a type if it is inferred. -/
structure LambdaParam where
  name : String
  type : Option String := none
deriving DecidableEq, Repr

/-- The method that a call was resolved to. -/
structure CallTarget where
  signature : MethodSig
  isStatic : Bool
deriving DecidableEq, Repr

/-! ### Operators -/

/-- An operator with one operand. -/
inductive UnaryOp where
  | negate | not | complement | preIncrement | preDecrement | postIncrement | postDecrement
deriving DecidableEq, Repr

/-- The text in front of the operand. -/
def UnaryOp.before : UnaryOp → String
  | .negate => "-"
  | .not => "!"
  | .complement => "~"
  | .preIncrement => "++"
  | .preDecrement => "--"
  | .postIncrement | .postDecrement => ""

/-- The text behind the operand. -/
def UnaryOp.after : UnaryOp → String
  | .postIncrement => "++"
  | .postDecrement => "--"
  | _ => ""

/-- An operator between two operands. -/
inductive BinaryOp where
  | add | subtract | multiply | divide | modulo
  | equal | notEqual | lessThan | lessEqual | greaterThan | greaterEqual
  | and | or | bitAnd | bitOr | bitXor | shiftLeft | shiftRight
deriving DecidableEq, Repr

def BinaryOp.text : BinaryOp → String
  | .add => "+"
  | .subtract => "-"
  | .multiply => "*"
  | .divide => "/"
  | .modulo => "%"
  | .equal => "=="
  | .notEqual => "!="
  | .lessThan => "<"
  | .lessEqual => "<="
  | .greaterThan => ">"
  | .greaterEqual => ">="
  | .and => "&&"
  | .or => "||"
  | .bitAnd => "&"
  | .bitOr => "|"
  | .bitXor => "^"
  | .shiftLeft => "<<"
  | .shiftRight => ">>"

/-- An assignment, plain or combined with an operation. -/
inductive AssignOp where
  | assign | add | subtract | multiply | divide
deriving DecidableEq, Repr

def AssignOp.text : AssignOp → String
  | .assign => "="
  | .add => "+="
  | .subtract => "-="
  | .multiply => "*="
  | .divide => "/="

/-- What a type declaration declares. -/
inductive ClassKind where
  | «class» | interface | enum | record
deriving DecidableEq, Repr

def ClassKind.text : ClassKind → String
  | .class => "class"
  | .interface => "interface"
  | .enum => "enum"
  | .record => "record"

/-! ### The tree -/

mutual

/-- An expression. -/
inductive Expr where
  | literal (value : Literal)
  | name (name : Name)
  /-- the current instance, or the one of an enclosing class if qualified -/
  | self (qualifier : Option String) (span : Span)
  | super
  | access (target : Expr) (name : Name) (span : Span)
  | call (receiver : Option Expr) (name : String) (args : List Expr)
      (target : Option CallTarget) (span : Span)
  | methodRef (target : Expr) (name : String) (span : Span)
  | unary (op : UnaryOp) (operand : Expr)
  | binary (op : BinaryOp) (left right : Expr)
  | assign (op : AssignOp) (target value : Expr)
  | conditional (condition yes no : Expr)
  /-- creation of an object, of an anonymous class if there is a body -/
  | create (type : String) (args : List Expr) (body : Option AnonymousBody) (span : Span)
  | index (array position : Expr)
  /-- creation of an array: sized dimensions, then empty bracket pairs, then the elements -/
  | newArray (element : String) (dimensions : List Expr) (extra : Nat)
      (elements : Option (List Expr))
  | arrayInit (elements : List Expr)
  | cast (type : String) (operand : Expr)
  | instanceOf (operand : Expr) (type : String) (binding : Option String)
  | switch (selector : Expr) (cases : List Case)
  | lambda (params : List LambdaParam) (body : LambdaBody) (span : Span)
  | paren (inner : Expr)

/-- What a lambda evaluates or runs. -/
inductive LambdaBody where
  | expr (value : Expr)
  | block (statements : List Stmt)

/-- The body of an anonymous class, with the name the resolver gave its type. -/
structure AnonymousBody where
  type : Option String
  members : List Member

/-- A group of a switch.  No labels means the default; an arrow group runs one statement. -/
structure Case where
  labels : List Expr
  arrow : Bool
  body : List Stmt

/-- One variable of a field or local declaration.  Only the variables of fields are resolved. -/
structure Declarator where
  name : String
  init : Option Expr
  signature : Option FieldSig
  span : Span

/-- A resource of a try statement: a new variable, given by its type and name, or an expression. -/
structure Resource where
  declares : Option (String × String)
  value : Expr

/-- A handler of a try statement. -/
structure CatchClause where
  param : Param
  body : List Stmt

/-- A statement. -/
inductive Stmt where
  | block (body : List Stmt)
  | locals (modifiers : Modifiers) (type : String) (declarators : List Declarator)
  | eval (value : Expr)
  | ret (value : Option Expr)
  | ifElse (condition : Expr) (yes : Stmt) (no : Option Stmt)
  | whileLoop (condition : Expr) (body : Stmt)
  | doLoop (body : Stmt) (condition : Expr)
  | forLoop (init : List Stmt) (condition : Option Expr) (update : List Expr) (body : Stmt)
  | forEach (param : Param) (iterable : Expr) (body : Stmt)
  | raise (value : Expr)
  | tryCatch (resources : List Resource) (body : List Stmt) (catches : List CatchClause)
      (final : Option (List Stmt))
  | locked (lock : Expr) (body : List Stmt)
  | switch (selector : Expr) (cases : List Case)
  | yield (value : Expr)
  | labelled (label : String) (body : Stmt)
  | check (condition : Expr) (message : Option Expr)
  | localClass (decl : ClassDecl)
  | leave (label : Option String)
  | next (label : Option String)
  | empty

/-- A field declaration: one modifier list for all its variables. -/
structure FieldDecl where
  modifiers : Modifiers
  type : String
  declarators : List Declarator
  span : Span

/-- A method declaration, without a body if it is abstract. -/
structure Method where
  modifiers : Modifiers
  typeParams : List String
  result : String
  name : String
  params : List Param
  throws : List String
  body : Option (List Stmt)
  signature : Option MethodSig
  span : Span

/-- A constructor declaration. -/
structure Constructor where
  modifiers : Modifiers
  name : String
  params : List Param
  throws : List String
  body : List Stmt
  span : Span

/-- A member of a class body. -/
inductive Member where
  | field (decl : FieldDecl)
  | method (decl : Method)
  | constructor (decl : Constructor)
  | initializer (isStatic : Bool) (body : List Stmt) (span : Span)
  | nested (decl : ClassDecl)

/-- A named type declaration, at the top level, nested in a class or local to a body. -/
structure ClassDecl where
  modifiers : Modifiers
  kind : ClassKind
  name : String
  /-- the qualified name -/
  type : String
  superclass : Option String
  interfaces : List String
  members : List Member
  span : Span

end

/-- A source file. -/
structure CompilationUnit where
  path : Option String := none
  package : Option String := none
  imports : List String := []
  classes : List ClassDecl := []

/-! ### Questions about one node -/

namespace Expr

/-- Whether the expression is the current instance, plain or qualified, or `super`. -/
def isReceiver : Expr → Bool
  | .self _ _ | .super => true
  | _ => false

end Expr

/-- Whether a call with this receiver is dispatched on the current instance. -/
def implicitReceiver : Option Expr → Bool
  | none => true
  | some e => e.isReceiver

namespace Method

def isStatic (m : Method) : Bool := m.modifiers.has .static

/-- Whether the method is declared abstract or has no body. -/
def isAbstract (m : Method) : Bool := m.modifiers.has .abstract || m.body.isNone

/-- Whether no subclass can override the method. -/
def isFixed (m : Method) : Bool := m.modifiers.has .private || m.modifiers.has .final

/-- The method with the keyword `static`. -/
def asStatic (order : KeywordOrder) (m : Method) : Method :=
  { m with modifiers := m.modifiers.addStatic order }

end Method

namespace FieldDecl

def isStatic (f : FieldDecl) : Bool := f.modifiers.has .static

end FieldDecl

namespace ClassDecl

/-- The methods among the direct members. -/
def methods (c : ClassDecl) : List Method :=
  c.members.filterMap fun
    | .method m => some m
    | _ => none

/-- The fields among the direct members. -/
def fields (c : ClassDecl) : List FieldDecl :=
  c.members.filterMap fun
    | .field f => some f
    | _ => none

end ClassDecl

namespace CompilationUnit

/-- The qualified names of the top-level types, in source order. -/
def topLevelTypes (u : CompilationUnit) : List String := u.classes.map ClassDecl.type

/-- Whether the unit declares no types. -/
def isEmpty (u : CompilationUnit) : Bool := u.classes.isEmpty

end CompilationUnit

end Receiverless
