/-
  Receiverless/Outline.lean
  =========================
  **The outline of a tree.**  Analyses do not care which of the many forms of
  statement or expression they pass through; they care about names, calls,
  object creations and about the declarations around them.  The outline shows a
  syntax tree as a plain tree of nodes: one node per construct, children in
  source order, each node with the facts that can be asked of it.

  The three ways to declare a class body are kept apart: member classes (top
  level or nested), local classes, and the bodies of anonymous classes.
-/
import Receiverless.Tree.Basic

namespace Receiverless

/-- A construct in an outline. -/
inductive Node where
  | unit (classes : Nat)
  | memberClass (decl : ClassDecl)
  | localClass (decl : ClassDecl)
  | anonymousBody (type : Option String)
  | member (decl : Member)
  | field (decl : FieldDecl)
  | method (decl : Method)
  | constructor (name : String)
  | initializer (isStatic : Bool)
  | block (statements : Nat)
  | stmt (s : Stmt)
  | expr (e : Expr)
  /-- `own` tells a simple name, or one behind the current instance, from a name behind another
      object -/
  | name (name : Name) (own : Bool)
  | self (qualifier : Option String)
  | super
  | access (name : String) (onReceiver : Bool)
  | call (name : String) (implicit : Bool) (target : Option CallTarget)
  /-- `typeName` is the target if that is a simple name -/
  | methodRef (name : String) (typeName : Option String)
  | create (type : String)
  | lambda (params : Nat)

/-- A tree of nodes. -/
inductive Outline where
  | node (label : Node) (children : List Outline)

namespace Outline

/-- A node without children. -/
def leaf (label : Node) : Outline := .node label []

mutual

/-- All nodes, each before its children. -/
def nodes : Outline → List Node
  | .node label children => label :: nodesOfAll children

def nodesOfAll : List Outline → List Node
  | [] => []
  | o :: os => nodes o ++ nodesOfAll os

end

end Outline

/-- The text of an expression that is a simple name. -/
def Expr.simpleName? : Expr → Option String
  | .name n => some n.text
  | _ => none

mutual

def Expr.outline : Expr → Outline
  | e@(.literal _) => .leaf (.expr e)
  | e@(.name n) => .node (.expr e) [.leaf (.name n true)]
  | e@(.self qualifier _) => .node (.expr e) [.leaf (.self qualifier)]
  | .super => .node (.expr .super) [.leaf .super]
  | e@(.access target n _) =>
    .node (.expr e) [.node (.access n.text target.isReceiver)
      [target.outline, .leaf (.name n target.isReceiver)]]
  | e@(.call none n args target _) =>
    .node (.expr e) [.node (.call n true target) (exprOutlines args)]
  | e@(.call (some receiver) n args target _) =>
    .node (.expr e) [.node (.call n receiver.isReceiver target)
      (receiver.outline :: exprOutlines args)]
  | e@(.methodRef target n _) =>
    .node (.expr e) [.node (.methodRef n target.simpleName?) [target.outline]]
  | e@(.unary _ operand) => .node (.expr e) [operand.outline]
  | e@(.binary _ left right) => .node (.expr e) [left.outline, right.outline]
  | e@(.assign _ target value) => .node (.expr e) [target.outline, value.outline]
  | e@(.conditional condition yes no) =>
    .node (.expr e) [condition.outline, yes.outline, no.outline]
  | e@(.create t args none _) => .node (.expr e) [.node (.create t) (exprOutlines args)]
  | e@(.create t args (some ⟨type, members⟩) _) =>
    .node (.expr e) [.node (.create t)
      (exprOutlines args ++ [.node (.anonymousBody type) (memberOutlines members)])]
  | e@(.index array position) => .node (.expr e) [array.outline, position.outline]
  | e@(.newArray _ dimensions _ none) => .node (.expr e) (exprOutlines dimensions)
  | e@(.newArray _ dimensions _ (some elements)) =>
    .node (.expr e) (exprOutlines dimensions ++ exprOutlines elements)
  | e@(.arrayInit elements) => .node (.expr e) (exprOutlines elements)
  | e@(.cast _ operand) => .node (.expr e) [operand.outline]
  | e@(.instanceOf operand _ _) => .node (.expr e) [operand.outline]
  | e@(.switch selector cases) => .node (.expr e) (selector.outline :: caseOutlines cases)
  | e@(.lambda params (.expr value) _) =>
    .node (.expr e) [.node (.lambda params.length) [value.outline]]
  | e@(.lambda params (.block body) _) =>
    .node (.expr e) [.node (.lambda params.length)
      [.node (.block body.length) (stmtOutlines body)]]
  | e@(.paren inner) => .node (.expr e) [inner.outline]

def exprOutlines : List Expr → List Outline
  | [] => []
  | e :: es => e.outline :: exprOutlines es

def caseOutlines : List Case → List Outline
  | [] => []
  | ⟨labels, _, body⟩ :: rest => exprOutlines labels ++ stmtOutlines body ++ caseOutlines rest

/-- The initial values of variables. -/
def declaratorOutlines : List Declarator → List Outline
  | [] => []
  | ⟨_, none, _, _⟩ :: rest => declaratorOutlines rest
  | ⟨_, some init, _, _⟩ :: rest => init.outline :: declaratorOutlines rest

def resourceOutlines : List Resource → List Outline
  | [] => []
  | ⟨_, value⟩ :: rest => value.outline :: resourceOutlines rest

def catchOutlines : List CatchClause → List Outline
  | [] => []
  | ⟨_, body⟩ :: rest => .node (.block body.length) (stmtOutlines body) :: catchOutlines rest

def Stmt.outline : Stmt → Outline
  | s@(.block body) => .node (.stmt s) [.node (.block body.length) (stmtOutlines body)]
  | s@(.locals _ _ declarators) => .node (.stmt s) (declaratorOutlines declarators)
  | s@(.eval value) => .node (.stmt s) [value.outline]
  | .ret none => .leaf (.stmt (.ret none))
  | s@(.ret (some value)) => .node (.stmt s) [value.outline]
  | s@(.ifElse condition yes none) => .node (.stmt s) [condition.outline, yes.outline]
  | s@(.ifElse condition yes (some no)) =>
    .node (.stmt s) [condition.outline, yes.outline, no.outline]
  | s@(.whileLoop condition body) => .node (.stmt s) [condition.outline, body.outline]
  | s@(.doLoop body condition) => .node (.stmt s) [body.outline, condition.outline]
  | s@(.forLoop init none update body) =>
    .node (.stmt s) (stmtOutlines init ++ exprOutlines update ++ [body.outline])
  | s@(.forLoop init (some condition) update body) =>
    .node (.stmt s)
      (stmtOutlines init ++ condition.outline :: (exprOutlines update ++ [body.outline]))
  | s@(.forEach _ iterable body) => .node (.stmt s) [iterable.outline, body.outline]
  | s@(.raise value) => .node (.stmt s) [value.outline]
  | s@(.tryCatch resources body catches none) =>
    .node (.stmt s) (resourceOutlines resources ++
      .node (.block body.length) (stmtOutlines body) :: catchOutlines catches)
  | s@(.tryCatch resources body catches (some final)) =>
    .node (.stmt s) (resourceOutlines resources ++
      .node (.block body.length) (stmtOutlines body) ::
        (catchOutlines catches ++ [.node (.block final.length) (stmtOutlines final)]))
  | s@(.locked lock body) =>
    .node (.stmt s) [lock.outline, .node (.block body.length) (stmtOutlines body)]
  | s@(.switch selector cases) => .node (.stmt s) (selector.outline :: caseOutlines cases)
  | s@(.yield value) => .node (.stmt s) [value.outline]
  | s@(.labelled _ body) => .node (.stmt s) [body.outline]
  | s@(.check condition none) => .node (.stmt s) [condition.outline]
  | s@(.check condition (some message)) => .node (.stmt s) [condition.outline, message.outline]
  | s@(.localClass decl@⟨_, _, _, _, _, _, members, _⟩) =>
    .node (.stmt s) [.node (.localClass decl) (memberOutlines members)]
  | s@(.leave _) => .leaf (.stmt s)
  | s@(.next _) => .leaf (.stmt s)
  | .empty => .leaf (.stmt .empty)

def stmtOutlines : List Stmt → List Outline
  | [] => []
  | s :: rest => s.outline :: stmtOutlines rest

def Method.outline : Method → Outline
  | d@⟨_, _, _, _, _, _, none, _, _⟩ => .leaf (.method d)
  | d@⟨_, _, _, _, _, _, some body, _, _⟩ =>
    .node (.method d) [.node (.block body.length) (stmtOutlines body)]

def Member.outline : Member → Outline
  | d@(.field f@⟨_, _, declarators, _⟩) =>
    .node (.member d) [.node (.field f) (declaratorOutlines declarators)]
  | d@(.method decl) => .node (.member d) [decl.outline]
  | d@(.constructor ⟨_, n, _, _, body, _⟩) =>
    .node (.member d) [.node (.constructor n) [.node (.block body.length) (stmtOutlines body)]]
  | d@(.initializer isStatic body _) =>
    .node (.member d)
      [.node (.initializer isStatic) [.node (.block body.length) (stmtOutlines body)]]
  | d@(.nested decl) => .node (.member d) [decl.outline]

def memberOutlines : List Member → List Outline
  | [] => []
  | d :: rest => d.outline :: memberOutlines rest

/-- A class as a member of its unit or of another class. -/
def ClassDecl.outline : ClassDecl → Outline
  | c@⟨_, _, _, _, _, _, members, _⟩ => .node (.memberClass c) (memberOutlines members)

end

def CompilationUnit.outline (u : CompilationUnit) : Outline :=
  .node (.unit u.classes.length) (u.classes.map ClassDecl.outline)

/-! ### Simple questions -/

/-- The method that a node declares. -/
def Node.method? : Node → Option Method
  | .method decl => some decl
  | _ => none

/-- All method declarations, an enclosing method before those in its body. -/
def Outline.methods (o : Outline) : List Method := o.nodes.filterMap Node.method?

/-- How often names and receivers occur. -/
structure Census where
  names : Nat
  /-- names that denote a field -/
  fieldReads : Nat
  selfs : Nat
  supers : Nat
deriving DecidableEq, Repr

def Outline.census (o : Outline) : Census where
  names := o.nodes.countP fun
    | .name _ _ => true
    | _ => false
  fieldReads := o.nodes.countP fun
    | .name n _ => n.field.isSome
    | _ => false
  selfs := o.nodes.countP fun
    | .self _ => true
    | _ => false
  supers := o.nodes.countP fun
    | .super => true
    | _ => false

end Receiverless
