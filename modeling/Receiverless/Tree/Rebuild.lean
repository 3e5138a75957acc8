/-
  Receiverless/Tree/Rebuild.lean
  ==============================
  **Walking a tree while rebuilding it.**  The walk visits every class, member,
  method, block, statement and expression of a unit in source order.  For each
  of these a hook is given the node as it is before the walk and the action that
  walks its parts and puts it together again; the hook may run the action, add
  effects of its own around it, change the result or put something else in the
  node's place.

  Names, receivers and literals are parts of their expression and have no hook.
-/
import Receiverless.Tree.Basic

namespace Receiverless

/-- What to do at each kind of node.  By default the node is walked and nothing else happens. -/
structure Hooks (m : Type → Type) where
  unit : CompilationUnit → m CompilationUnit → m CompilationUnit := fun _ walk => walk
  classDecl : ClassDecl → m ClassDecl → m ClassDecl := fun _ walk => walk
  member : Member → m Member → m Member := fun _ walk => walk
  method : Method → m Method → m Method := fun _ walk => walk
  block : List Stmt → m (List Stmt) → m (List Stmt) := fun _ walk => walk
  stmt : Stmt → m Stmt → m Stmt := fun _ walk => walk
  expr : Expr → m Expr → m Expr := fun _ walk => walk

variable {m : Type → Type} [Monad m]

mutual

def Expr.rebuild (h : Hooks m) : Expr → m Expr
  | e@(.literal _) => h.expr e (pure e)
  | e@(.name _) => h.expr e (pure e)
  | e@(.self _ _) => h.expr e (pure e)
  | .super => h.expr .super (pure .super)
  | e@(.access target n s) => h.expr e do
    return .access (← target.rebuild h) n s
  | e@(.call none n args t s) => h.expr e do
    return .call none n (← rebuildExprs h args) t s
  | e@(.call (some receiver) n args t s) => h.expr e do
    let receiver ← receiver.rebuild h
    return .call (some receiver) n (← rebuildExprs h args) t s
  | e@(.methodRef target n s) => h.expr e do
    return .methodRef (← target.rebuild h) n s
  | e@(.unary op operand) => h.expr e do
    return .unary op (← operand.rebuild h)
  | e@(.binary op left right) => h.expr e do
    let left ← left.rebuild h
    return .binary op left (← right.rebuild h)
  | e@(.assign op target value) => h.expr e do
    let target ← target.rebuild h
    return .assign op target (← value.rebuild h)
  | e@(.conditional condition yes no) => h.expr e do
    let condition ← condition.rebuild h
    let yes ← yes.rebuild h
    return .conditional condition yes (← no.rebuild h)
  | e@(.create t args none s) => h.expr e do
    return .create t (← rebuildExprs h args) none s
  | e@(.create t args (some ⟨type, members⟩) s) => h.expr e do
    let args ← rebuildExprs h args
    return .create t args (some ⟨type, ← rebuildMembers h members⟩) s
  | e@(.index array position) => h.expr e do
    let array ← array.rebuild h
    return .index array (← position.rebuild h)
  | e@(.newArray t dimensions extra none) => h.expr e do
    return .newArray t (← rebuildExprs h dimensions) extra none
  | e@(.newArray t dimensions extra (some elements)) => h.expr e do
    let dimensions ← rebuildExprs h dimensions
    return .newArray t dimensions extra (some (← rebuildExprs h elements))
  | e@(.arrayInit elements) => h.expr e do
    return .arrayInit (← rebuildExprs h elements)
  | e@(.cast t operand) => h.expr e do
    return .cast t (← operand.rebuild h)
  | e@(.instanceOf operand t binding) => h.expr e do
    return .instanceOf (← operand.rebuild h) t binding
  | e@(.switch selector cases) => h.expr e do
    let selector ← selector.rebuild h
    return .switch selector (← rebuildCases h cases)
  | e@(.lambda params (.expr value) s) => h.expr e do
    return .lambda params (.expr (← value.rebuild h)) s
  | e@(.lambda params (.block statements) s) => h.expr e do
    return .lambda params (.block (← h.block statements (rebuildStmts h statements))) s
  | e@(.paren inner) => h.expr e do
    return .paren (← inner.rebuild h)

def rebuildExprs (h : Hooks m) : List Expr → m (List Expr)
  | [] => pure []
  | e :: es => do
    let e ← e.rebuild h
    return e :: (← rebuildExprs h es)

def rebuildCases (h : Hooks m) : List Case → m (List Case)
  | [] => pure []
  | ⟨labels, arrow, statements⟩ :: rest => do
    let labels ← rebuildExprs h labels
    let statements ← rebuildStmts h statements
    return ⟨labels, arrow, statements⟩ :: (← rebuildCases h rest)

def rebuildDeclarators (h : Hooks m) : List Declarator → m (List Declarator)
  | [] => pure []
  | ⟨n, none, sig, s⟩ :: rest => return ⟨n, none, sig, s⟩ :: (← rebuildDeclarators h rest)
  | ⟨n, some init, sig, s⟩ :: rest => do
    let init ← init.rebuild h
    return ⟨n, some init, sig, s⟩ :: (← rebuildDeclarators h rest)

def rebuildResources (h : Hooks m) : List Resource → m (List Resource)
  | [] => pure []
  | ⟨declares, value⟩ :: rest => do
    let value ← value.rebuild h
    return ⟨declares, value⟩ :: (← rebuildResources h rest)

def rebuildCatches (h : Hooks m) : List CatchClause → m (List CatchClause)
  | [] => pure []
  | ⟨param, statements⟩ :: rest => do
    let statements ← h.block statements (rebuildStmts h statements)
    return ⟨param, statements⟩ :: (← rebuildCatches h rest)

def Stmt.rebuild (h : Hooks m) : Stmt → m Stmt
  | s@(.block statements) => h.stmt s do
    return .block (← h.block statements (rebuildStmts h statements))
  | s@(.locals modifiers t declarators) => h.stmt s do
    return .locals modifiers t (← rebuildDeclarators h declarators)
  | s@(.eval value) => h.stmt s do
    return .eval (← value.rebuild h)
  | .ret none => h.stmt (.ret none) (pure (.ret none))
  | s@(.ret (some value)) => h.stmt s do
    return .ret (some (← value.rebuild h))
  | s@(.ifElse condition yes none) => h.stmt s do
    let condition ← condition.rebuild h
    return .ifElse condition (← yes.rebuild h) none
  | s@(.ifElse condition yes (some no)) => h.stmt s do
    let condition ← condition.rebuild h
    let yes ← yes.rebuild h
    return .ifElse condition yes (some (← no.rebuild h))
  | s@(.whileLoop condition body) => h.stmt s do
    let condition ← condition.rebuild h
    return .whileLoop condition (← body.rebuild h)
  | s@(.doLoop body condition) => h.stmt s do
    let body ← body.rebuild h
    return .doLoop body (← condition.rebuild h)
  | s@(.forLoop init none update body) => h.stmt s do
    let init ← rebuildStmts h init
    let update ← rebuildExprs h update
    return .forLoop init none update (← body.rebuild h)
  | s@(.forLoop init (some condition) update body) => h.stmt s do
    let init ← rebuildStmts h init
    let condition ← condition.rebuild h
    let update ← rebuildExprs h update
    return .forLoop init (some condition) update (← body.rebuild h)
  | s@(.forEach param iterable body) => h.stmt s do
    let iterable ← iterable.rebuild h
    return .forEach param iterable (← body.rebuild h)
  | s@(.raise value) => h.stmt s do
    return .raise (← value.rebuild h)
  | s@(.tryCatch resources body catches none) => h.stmt s do
    let resources ← rebuildResources h resources
    let body ← h.block body (rebuildStmts h body)
    return .tryCatch resources body (← rebuildCatches h catches) none
  | s@(.tryCatch resources body catches (some final)) => h.stmt s do
    let resources ← rebuildResources h resources
    let body ← h.block body (rebuildStmts h body)
    let catches ← rebuildCatches h catches
    return .tryCatch resources body catches (some (← h.block final (rebuildStmts h final)))
  | s@(.locked lock body) => h.stmt s do
    let lock ← lock.rebuild h
    return .locked lock (← h.block body (rebuildStmts h body))
  | s@(.switch selector cases) => h.stmt s do
    let selector ← selector.rebuild h
    return .switch selector (← rebuildCases h cases)
  | s@(.yield value) => h.stmt s do
    return .yield (← value.rebuild h)
  | s@(.labelled label body) => h.stmt s do
    return .labelled label (← body.rebuild h)
  | s@(.check condition none) => h.stmt s do
    return .check (← condition.rebuild h) none
  | s@(.check condition (some message)) => h.stmt s do
    let condition ← condition.rebuild h
    return .check condition (some (← message.rebuild h))
  | s@(.localClass decl) => h.stmt s do
    return .localClass (← decl.rebuild h)
  | s@(.leave _) => h.stmt s (pure s)
  | s@(.next _) => h.stmt s (pure s)
  | .empty => h.stmt .empty (pure .empty)

def rebuildStmts (h : Hooks m) : List Stmt → m (List Stmt)
  | [] => pure []
  | s :: rest => do
    let s ← s.rebuild h
    return s :: (← rebuildStmts h rest)

def Method.rebuild (h : Hooks m) : Method → m Method
  | d@⟨_, _, _, _, _, _, none, _, _⟩ => h.method d (pure d)
  | d@⟨modifiers, typeParams, result, n, params, throws, some body, sig, s⟩ => h.method d do
    let body ← h.block body (rebuildStmts h body)
    return ⟨modifiers, typeParams, result, n, params, throws, some body, sig, s⟩

def Member.rebuild (h : Hooks m) : Member → m Member
  | d@(.field ⟨modifiers, t, declarators, s⟩) => h.member d do
    return .field ⟨modifiers, t, ← rebuildDeclarators h declarators, s⟩
  | d@(.method decl) => h.member d do
    return .method (← decl.rebuild h)
  | d@(.constructor ⟨modifiers, n, params, throws, body, s⟩) => h.member d do
    return .constructor ⟨modifiers, n, params, throws, ← h.block body (rebuildStmts h body), s⟩
  | d@(.initializer isStatic body s) => h.member d do
    return .initializer isStatic (← h.block body (rebuildStmts h body)) s
  | d@(.nested decl) => h.member d do
    return .nested (← decl.rebuild h)

def rebuildMembers (h : Hooks m) : List Member → m (List Member)
  | [] => pure []
  | d :: rest => do
    let d ← d.rebuild h
    return d :: (← rebuildMembers h rest)

def ClassDecl.rebuild (h : Hooks m) : ClassDecl → m ClassDecl
  | c@⟨modifiers, kind, n, t, superclass, interfaces, members, s⟩ => h.classDecl c do
    return ⟨modifiers, kind, n, t, superclass, interfaces, ← rebuildMembers h members, s⟩

end

def rebuildClasses (h : Hooks m) : List ClassDecl → m (List ClassDecl)
  | [] => pure []
  | c :: rest => do
    let c ← c.rebuild h
    return c :: (← rebuildClasses h rest)

def CompilationUnit.rebuild (h : Hooks m) (u : CompilationUnit) : m CompilationUnit :=
  h.unit u do
    return { u with classes := ← rebuildClasses h u.classes }

/-! ### Two simple changes -/

/-- Every method under a changed name; signatures stay as they are. -/
def CompilationUnit.renameMethods (f : String → String) (u : CompilationUnit) : CompilationUnit :=
  Id.run <| u.rebuild {
    method := fun _ walk => do
      let d ← walk
      return { d with name := f d.name } }

/-- Every name that denotes a field, where it stands as an expression, replaced by a value. -/
def CompilationUnit.replaceFieldReads (value : Expr) (u : CompilationUnit) : CompilationUnit :=
  Id.run <| u.rebuild {
    expr := fun e walk =>
      match e with
      | .name ⟨_, some _, _⟩ => pure value
      | _ => walk }

end Receiverless
