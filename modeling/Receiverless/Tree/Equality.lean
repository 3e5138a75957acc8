/-
  Receiverless/Tree/Equality.lean
  ===============================
  **Equality of trees as a test.**  Two trees are the same when every part
  agrees, spans and modifier leads included.  Floating-point literals are
  compared as numbers: zero equals negative zero, and a tree that holds a NaN
  differs from every tree, itself included.
-/
import Receiverless.Tree.Basic

namespace Receiverless

def Literal.same : Literal → Literal → Bool
  | .float x, .float y => x.numEq y
  | .double x, .double y => x.numEq y
  | a, b => a == b

mutual

def Expr.same : Expr → Expr → Bool
  | .literal a => fun
    | .literal b => a.same b
    | _ => false
  | .name a => fun
    | .name b => a == b
    | _ => false
  | .self q s => fun
    | .self q' s' => q == q' && s == s'
    | _ => false
  | .super => fun
    | .super => true
    | _ => false
  | .access t n s => fun
    | .access t' n' s' => t.same t' && n == n' && s == s'
    | _ => false
  | .call none n args t s => fun
    | .call none n' args' t' s' => n == n' && sameExprs args args' && t == t' && s == s'
    | _ => false
  | .call (some r) n args t s => fun
    | .call (some r') n' args' t' s' =>
      r.same r' && n == n' && sameExprs args args' && t == t' && s == s'
    | _ => false
  | .methodRef t n s => fun
    | .methodRef t' n' s' => t.same t' && n == n' && s == s'
    | _ => false
  | .unary op e => fun
    | .unary op' e' => op == op' && e.same e'
    | _ => false
  | .binary op l r => fun
    | .binary op' l' r' => op == op' && l.same l' && r.same r'
    | _ => false
  | .assign op l r => fun
    | .assign op' l' r' => op == op' && l.same l' && r.same r'
    | _ => false
  | .conditional c y n => fun
    | .conditional c' y' n' => c.same c' && y.same y' && n.same n'
    | _ => false
  | .create t args none s => fun
    | .create t' args' none s' => t == t' && sameExprs args args' && s == s'
    | _ => false
  | .create t args (some ⟨ty, ms⟩) s => fun
    | .create t' args' (some ⟨ty', ms'⟩) s' =>
      t == t' && sameExprs args args' && ty == ty' && sameMembers ms ms' && s == s'
    | _ => false
  | .index a i => fun
    | .index a' i' => a.same a' && i.same i'
    | _ => false
  | .newArray t ds n none => fun
    | .newArray t' ds' n' none => t == t' && sameExprs ds ds' && n == n'
    | _ => false
  | .newArray t ds n (some es) => fun
    | .newArray t' ds' n' (some es') => t == t' && sameExprs ds ds' && n == n' && sameExprs es es'
    | _ => false
  | .arrayInit es => fun
    | .arrayInit es' => sameExprs es es'
    | _ => false
  | .cast t e => fun
    | .cast t' e' => t == t' && e.same e'
    | _ => false
  | .instanceOf e t b => fun
    | .instanceOf e' t' b' => e.same e' && t == t' && b == b'
    | _ => false
  | .switch e cs => fun
    | .switch e' cs' => e.same e' && sameCases cs cs'
    | _ => false
  | .lambda ps (.expr e) s => fun
    | .lambda ps' (.expr e') s' => ps == ps' && e.same e' && s == s'
    | _ => false
  | .lambda ps (.block b) s => fun
    | .lambda ps' (.block b') s' => ps == ps' && sameStmts b b' && s == s'
    | _ => false
  | .paren e => fun
    | .paren e' => e.same e'
    | _ => false

def sameExprs : List Expr → List Expr → Bool
  | [] => fun
    | [] => true
    | _ => false
  | e :: es => fun
    | e' :: es' => e.same e' && sameExprs es es'
    | _ => false

def sameCases : List Case → List Case → Bool
  | [] => fun
    | [] => true
    | _ => false
  | ⟨ls, a, b⟩ :: cs => fun
    | ⟨ls', a', b'⟩ :: cs' => sameExprs ls ls' && a == a' && sameStmts b b' && sameCases cs cs'
    | _ => false

def sameDeclarators : List Declarator → List Declarator → Bool
  | [] => fun
    | [] => true
    | _ => false
  | ⟨n, none, sig, s⟩ :: vs => fun
    | ⟨n', none, sig', s'⟩ :: vs' => n == n' && sig == sig' && s == s' && sameDeclarators vs vs'
    | _ => false
  | ⟨n, some e, sig, s⟩ :: vs => fun
    | ⟨n', some e', sig', s'⟩ :: vs' =>
      n == n' && e.same e' && sig == sig' && s == s' && sameDeclarators vs vs'
    | _ => false

def sameResources : List Resource → List Resource → Bool
  | [] => fun
    | [] => true
    | _ => false
  | ⟨d, e⟩ :: rs => fun
    | ⟨d', e'⟩ :: rs' => d == d' && e.same e' && sameResources rs rs'
    | _ => false

def sameCatches : List CatchClause → List CatchClause → Bool
  | [] => fun
    | [] => true
    | _ => false
  | ⟨p, b⟩ :: cs => fun
    | ⟨p', b'⟩ :: cs' => p == p' && sameStmts b b' && sameCatches cs cs'
    | _ => false

def Stmt.same : Stmt → Stmt → Bool
  | .block b => fun
    | .block b' => sameStmts b b'
    | _ => false
  | .locals ms t vs => fun
    | .locals ms' t' vs' => ms == ms' && t == t' && sameDeclarators vs vs'
    | _ => false
  | .eval e => fun
    | .eval e' => e.same e'
    | _ => false
  | .ret none => fun
    | .ret none => true
    | _ => false
  | .ret (some e) => fun
    | .ret (some e') => e.same e'
    | _ => false
  | .ifElse c y none => fun
    | .ifElse c' y' none => c.same c' && y.same y'
    | _ => false
  | .ifElse c y (some n) => fun
    | .ifElse c' y' (some n') => c.same c' && y.same y' && n.same n'
    | _ => false
  | .whileLoop c b => fun
    | .whileLoop c' b' => c.same c' && b.same b'
    | _ => false
  | .doLoop b c => fun
    | .doLoop b' c' => b.same b' && c.same c'
    | _ => false
  | .forLoop i none u b => fun
    | .forLoop i' none u' b' => sameStmts i i' && sameExprs u u' && b.same b'
    | _ => false
  | .forLoop i (some c) u b => fun
    | .forLoop i' (some c') u' b' => sameStmts i i' && c.same c' && sameExprs u u' && b.same b'
    | _ => false
  | .forEach p e b => fun
    | .forEach p' e' b' => p == p' && e.same e' && b.same b'
    | _ => false
  | .raise e => fun
    | .raise e' => e.same e'
    | _ => false
  | .tryCatch rs b cs none => fun
    | .tryCatch rs' b' cs' none => sameResources rs rs' && sameStmts b b' && sameCatches cs cs'
    | _ => false
  | .tryCatch rs b cs (some f) => fun
    | .tryCatch rs' b' cs' (some f') =>
      sameResources rs rs' && sameStmts b b' && sameCatches cs cs' && sameStmts f f'
    | _ => false
  | .locked e b => fun
    | .locked e' b' => e.same e' && sameStmts b b'
    | _ => false
  | .switch e cs => fun
    | .switch e' cs' => e.same e' && sameCases cs cs'
    | _ => false
  | .yield e => fun
    | .yield e' => e.same e'
    | _ => false
  | .labelled l b => fun
    | .labelled l' b' => l == l' && b.same b'
    | _ => false
  | .check c none => fun
    | .check c' none => c.same c'
    | _ => false
  | .check c (some m) => fun
    | .check c' (some m') => c.same c' && m.same m'
    | _ => false
  | .localClass c => fun
    | .localClass c' => c.same c'
    | _ => false
  | .leave l => fun
    | .leave l' => l == l'
    | _ => false
  | .next l => fun
    | .next l' => l == l'
    | _ => false
  | .empty => fun
    | .empty => true
    | _ => false

def sameStmts : List Stmt → List Stmt → Bool
  | [] => fun
    | [] => true
    | _ => false
  | s :: ss => fun
    | s' :: ss' => s.same s' && sameStmts ss ss'
    | _ => false

def Method.same : Method → Method → Bool
  | ⟨ms, tps, r, n, ps, ths, none, sig, s⟩ => fun
    | ⟨ms', tps', r', n', ps', ths', none, sig', s'⟩ =>
      ms == ms' && tps == tps' && r == r' && n == n' && ps == ps' && ths == ths' && sig == sig' &&
        s == s'
    | _ => false
  | ⟨ms, tps, r, n, ps, ths, some b, sig, s⟩ => fun
    | ⟨ms', tps', r', n', ps', ths', some b', sig', s'⟩ =>
      ms == ms' && tps == tps' && r == r' && n == n' && ps == ps' && ths == ths' &&
        sameStmts b b' && sig == sig' && s == s'
    | _ => false

def Member.same : Member → Member → Bool
  | .field ⟨ms, t, vs, s⟩ => fun
    | .field ⟨ms', t', vs', s'⟩ => ms == ms' && t == t' && sameDeclarators vs vs' && s == s'
    | _ => false
  | .method m => fun
    | .method m' => m.same m'
    | _ => false
  | .constructor ⟨ms, n, ps, ths, b, s⟩ => fun
    | .constructor ⟨ms', n', ps', ths', b', s'⟩ =>
      ms == ms' && n == n' && ps == ps' && ths == ths' && sameStmts b b' && s == s'
    | _ => false
  | .initializer st b s => fun
    | .initializer st' b' s' => st == st' && sameStmts b b' && s == s'
    | _ => false
  | .nested c => fun
    | .nested c' => c.same c'
    | _ => false

def sameMembers : List Member → List Member → Bool
  | [] => fun
    | [] => true
    | _ => false
  | m :: ms => fun
    | m' :: ms' => m.same m' && sameMembers ms ms'
    | _ => false

def ClassDecl.same : ClassDecl → ClassDecl → Bool
  | ⟨ms, k, n, t, sup, is, mems, s⟩ => fun
    | ⟨ms', k', n', t', sup', is', mems', s'⟩ =>
      ms == ms' && k == k' && n == n' && t == t' && sup == sup' && is == is' &&
        sameMembers mems mems' && s == s'

end

def sameClasses : List ClassDecl → List ClassDecl → Bool
  | [], [] => true
  | c :: cs, c' :: cs' => c.same c' && sameClasses cs cs'
  | _, _ => false

def CompilationUnit.same (u v : CompilationUnit) : Bool :=
  u.path == v.path && u.package == v.package && u.imports == v.imports &&
    sameClasses u.classes v.classes

end Receiverless
