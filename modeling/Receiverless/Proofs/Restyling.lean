/-
  Receiverless/Proofs/Restyling.lean
  ==================================
  **Walks that change nothing but modifiers.**  The walk of the pass does two
  things at a method: it writes an entry of the report, and it may change the
  modifiers.  Both depend on the method as it stood before the walk, so the walk
  comes apart: `rebuild_noting` says that it runs the effects over the methods
  in the order of the outline, and that the tree it returns is the restyled one,
  which is a plain function of the tree.

  The two walks over a tree are written down independently.  That they meet the
  same methods in the same order is part of this equation, and it is the only
  induction over all forms of construct that the pass needs.

  The second half says what restyling leaves alone: the direct parts of a part,
  its frame, and all that an analysis collects.
-/
import Mathlib.Data.List.Basic
import Receiverless.Proofs.PartOutlines
import Receiverless.Tree.Rebuild

namespace Receiverless

/-- How modifiers change: from the method as it was and the modifiers that it has. -/
abbrev Style := Method → Modifiers → Modifiers

section Noting

variable {m : Type → Type} [Monad m]

/-- Hooks that run an action for every method and give it other modifiers. -/
def Hooks.noting (note : Method → m Unit) (style : Style) : Hooks m where
  method := fun d walk => do
    note d
    let walked ← walk
    return { walked with modifiers := style d walked.modifiers }

variable (note : Method → m Unit) (style : Style)

@[simp] theorem Hooks.noting_classDecl (c : ClassDecl) (walk : m ClassDecl) :
    (Hooks.noting note style).classDecl c walk = walk := rfl

@[simp] theorem Hooks.noting_member (d : Member) (walk : m Member) :
    (Hooks.noting note style).member d walk = walk := rfl

@[simp] theorem Hooks.noting_method (d : Method) (walk : m Method) :
    (Hooks.noting note style).method d walk = do
      note d
      let walked ← walk
      return { walked with modifiers := style d walked.modifiers } := rfl

@[simp] theorem Hooks.noting_block (ss : List Stmt) (walk : m (List Stmt)) :
    (Hooks.noting note style).block ss walk = walk := rfl

@[simp] theorem Hooks.noting_stmt (s : Stmt) (walk : m Stmt) :
    (Hooks.noting note style).stmt s walk = walk := rfl

@[simp] theorem Hooks.noting_expr (e : Expr) (walk : m Expr) :
    (Hooks.noting note style).expr e walk = walk := rfl

@[simp] theorem Hooks.noting_unit (u : CompilationUnit) (walk : m CompilationUnit) :
    (Hooks.noting note style).unit u walk = walk := rfl

theorem Hooks.noting_method_of_keep [LawfulMonad m] {style : Style} {d : Method}
    (hkeep : ∀ ms, style d ms = ms) (walk : m Method) :
    (Hooks.noting note style).method d walk = (note d >>= fun _ => walk) := by
  have hpure : (fun walked : Method =>
      (pure { walked with modifiers := style d walked.modifiers } : m Method)) = pure := by
    funext walked
    cases walked
    rw [hkeep]
  rw [Hooks.noting_method, hpure, bind_pure]

end Noting

/-! ### The restyled tree -/

/-- Hooks that only change modifiers. -/
abbrev Hooks.restyling (style : Style) : Hooks Id := Hooks.noting (fun _ => pure ()) style

variable (style : Style)

def Expr.restyle (e : Expr) : Expr := (e.rebuild (.restyling style)).run

def Stmt.restyle (s : Stmt) : Stmt := (s.rebuild (.restyling style)).run

def Method.restyle (d : Method) : Method := (d.rebuild (.restyling style)).run

def Member.restyle (d : Member) : Member := (d.rebuild (.restyling style)).run

def ClassDecl.restyle (c : ClassDecl) : ClassDecl := (c.rebuild (.restyling style)).run

def AnonymousBody.restyle (body : AnonymousBody) : AnonymousBody :=
  { body with members := body.members.map (Member.restyle style) }

def Case.restyle (c : Case) : Case :=
  { c with labels := c.labels.map (Expr.restyle style), body := c.body.map (Stmt.restyle style) }

def Declarator.restyle (d : Declarator) : Declarator :=
  { d with init := d.init.map (Expr.restyle style) }

def Resource.restyle (r : Resource) : Resource := { r with value := r.value.restyle style }

def CatchClause.restyle (c : CatchClause) : CatchClause :=
  { c with body := c.body.map (Stmt.restyle style) }

def LambdaBody.restyle : LambdaBody → LambdaBody
  | .expr value => .expr (value.restyle style)
  | .block statements => .block (statements.map (Stmt.restyle style))

def Part.restyle : Part → Part
  | .expr e => .expr (e.restyle style)
  | .stmt s => .stmt (s.restyle style)
  | .anonymous body => .anonymous (body.restyle style)
  | .member d => .member (d.restyle style)

def CompilationUnit.restyle (u : CompilationUnit) : CompilationUnit :=
  { u with classes := u.classes.map (ClassDecl.restyle style) }

section Lists

attribute [local simp] Expr.restyle Stmt.restyle Member.restyle ClassDecl.restyle

theorem run_rebuildExprs (es : List Expr) :
    (rebuildExprs (.restyling style) es).run = es.map (Expr.restyle style) := by
  induction es with
  | nil => rfl
  | cons e es ih => simp [rebuildExprs, ih]

theorem run_rebuildStmts (ss : List Stmt) :
    (rebuildStmts (.restyling style) ss).run = ss.map (Stmt.restyle style) := by
  induction ss with
  | nil => rfl
  | cons s ss ih => simp [rebuildStmts, ih]

theorem run_rebuildMembers (ds : List Member) :
    (rebuildMembers (.restyling style) ds).run = ds.map (Member.restyle style) := by
  induction ds with
  | nil => rfl
  | cons d ds ih => simp [rebuildMembers, ih]

theorem run_rebuildCases (cs : List Case) :
    (rebuildCases (.restyling style) cs).run = cs.map (Case.restyle style) := by
  induction cs with
  | nil => rfl
  | cons c cs ih =>
    obtain ⟨labels, arrow, body⟩ := c
    simp [rebuildCases, run_rebuildExprs, run_rebuildStmts, Case.restyle, ih]

theorem run_rebuildDeclarators (ds : List Declarator) :
    (rebuildDeclarators (.restyling style) ds).run = ds.map (Declarator.restyle style) := by
  induction ds with
  | nil => rfl
  | cons d ds ih =>
    obtain ⟨n, _ | init, signature, span⟩ := d
    · simp [rebuildDeclarators, Declarator.restyle, ih]
    · simp [rebuildDeclarators, Declarator.restyle, ih]

theorem run_rebuildResources (rs : List Resource) :
    (rebuildResources (.restyling style) rs).run = rs.map (Resource.restyle style) := by
  induction rs with
  | nil => rfl
  | cons r rs ih =>
    obtain ⟨declares, value⟩ := r
    simp [rebuildResources, Resource.restyle, ih]

theorem run_rebuildCatches (cs : List CatchClause) :
    (rebuildCatches (.restyling style) cs).run = cs.map (CatchClause.restyle style) := by
  induction cs with
  | nil => rfl
  | cons c cs ih =>
    obtain ⟨param, body⟩ := c
    simp [rebuildCatches, run_rebuildStmts, CatchClause.restyle, ih]

end Lists

/-- A restyled method has other modifiers and restyled methods in its body. -/
theorem Method.restyle_eq (d : Method) :
    d.restyle style =
      { d with
        modifiers := style d d.modifiers
        body := d.body.map (List.map (Stmt.restyle style)) } := by
  obtain ⟨_, _, _, _, _, _, _ | body, _, _⟩ := d
  · simp [Method.restyle, Method.rebuild]
  · simp [Method.restyle, Method.rebuild, run_rebuildStmts]

theorem ClassDecl.restyle_eq (c : ClassDecl) :
    c.restyle style = { c with members := c.members.map (Member.restyle style) } := by
  obtain ⟨_, _, _, _, _, _, members, _⟩ := c
  simp [ClassDecl.restyle, ClassDecl.rebuild, run_rebuildMembers]

theorem Member.restyle_field (f : FieldDecl) :
    (Member.field f).restyle style =
      .field { f with declarators := f.declarators.map (Declarator.restyle style) } := by
  cases f
  simp [Member.restyle, Member.rebuild, run_rebuildDeclarators]

theorem Member.restyle_method (d : Method) :
    (Member.method d).restyle style = .method (d.restyle style) := by
  simp [Member.restyle, Member.rebuild, Method.restyle]

theorem Member.restyle_constructor (k : Constructor) :
    (Member.constructor k).restyle style =
      .constructor { k with body := k.body.map (Stmt.restyle style) } := by
  cases k
  simp [Member.restyle, Member.rebuild, run_rebuildStmts]

theorem Member.restyle_initializer (isStatic : Bool) (body : List Stmt) (span : Span) :
    (Member.initializer isStatic body span).restyle style =
      .initializer isStatic (body.map (Stmt.restyle style)) span := by
  simp [Member.restyle, Member.rebuild, run_rebuildStmts]

theorem Member.restyle_nested (c : ClassDecl) :
    (Member.nested c).restyle style = .nested (c.restyle style) := by
  simp [Member.restyle, Member.rebuild, ClassDecl.restyle]

section Forms

attribute [local simp] Expr.restyle Stmt.restyle Expr.rebuild Stmt.rebuild AnonymousBody.restyle
  LambdaBody.restyle run_rebuildExprs run_rebuildStmts run_rebuildMembers run_rebuildCases
  run_rebuildDeclarators run_rebuildResources run_rebuildCatches

/-- A restyled expression has the form it had, with restyled parts. -/
theorem Expr.restyle_eq (e : Expr) :
    e.restyle style = match e with
      | .literal _ | .name _ | .self _ _ | .super => e
      | .access target n s => .access (target.restyle style) n s
      | .call receiver n args t s =>
        .call (receiver.map (Expr.restyle style)) n (args.map (Expr.restyle style)) t s
      | .methodRef target n s => .methodRef (target.restyle style) n s
      | .unary op operand => .unary op (operand.restyle style)
      | .binary op left right => .binary op (left.restyle style) (right.restyle style)
      | .assign op target value => .assign op (target.restyle style) (value.restyle style)
      | .conditional condition yes no =>
        .conditional (condition.restyle style) (yes.restyle style) (no.restyle style)
      | .create t args body s =>
        .create t (args.map (Expr.restyle style)) (body.map (AnonymousBody.restyle style)) s
      | .index array position => .index (array.restyle style) (position.restyle style)
      | .newArray t dimensions extra elements =>
        .newArray t (dimensions.map (Expr.restyle style)) extra
          (elements.map (List.map (Expr.restyle style)))
      | .arrayInit elements => .arrayInit (elements.map (Expr.restyle style))
      | .cast t operand => .cast t (operand.restyle style)
      | .instanceOf operand t binding => .instanceOf (operand.restyle style) t binding
      | .switch selector cases => .switch (selector.restyle style) (cases.map (Case.restyle style))
      | .lambda params body s => .lambda params (body.restyle style) s
      | .paren inner => .paren (inner.restyle style) := by
  fun_cases Expr.rebuild (Hooks.restyling style) e <;> simp

/-- A restyled statement has the form it had, with restyled parts. -/
theorem Stmt.restyle_eq (s : Stmt) :
    s.restyle style = match s with
      | .leave _ | .next _ | .empty => s
      | .block statements => .block (statements.map (Stmt.restyle style))
      | .locals modifiers t declarators =>
        .locals modifiers t (declarators.map (Declarator.restyle style))
      | .eval value => .eval (value.restyle style)
      | .ret value => .ret (value.map (Expr.restyle style))
      | .ifElse condition yes no =>
        .ifElse (condition.restyle style) (yes.restyle style) (no.map (Stmt.restyle style))
      | .whileLoop condition body => .whileLoop (condition.restyle style) (body.restyle style)
      | .doLoop body condition => .doLoop (body.restyle style) (condition.restyle style)
      | .forLoop init condition update body =>
        .forLoop (init.map (Stmt.restyle style)) (condition.map (Expr.restyle style))
          (update.map (Expr.restyle style)) (body.restyle style)
      | .forEach param iterable body =>
        .forEach param (iterable.restyle style) (body.restyle style)
      | .raise value => .raise (value.restyle style)
      | .tryCatch resources body catches final =>
        .tryCatch (resources.map (Resource.restyle style)) (body.map (Stmt.restyle style))
          (catches.map (CatchClause.restyle style)) (final.map (List.map (Stmt.restyle style)))
      | .locked lock body => .locked (lock.restyle style) (body.map (Stmt.restyle style))
      | .switch selector cases => .switch (selector.restyle style) (cases.map (Case.restyle style))
      | .yield value => .yield (value.restyle style)
      | .labelled label body => .labelled label (body.restyle style)
      | .check condition message =>
        .check (condition.restyle style) (message.map (Expr.restyle style))
      | .localClass decl => .localClass (decl.restyle style) := by
  fun_cases Stmt.rebuild (Hooks.restyling style) s <;> simp [ClassDecl.restyle]

end Forms

/-! ### What a noting walk does -/

section Walk

variable {m : Type → Type} [Monad m] [LawfulMonad m] (note : Method → m Unit)

attribute [local simp] Expr.restyle Stmt.restyle Method.restyle Member.restyle ClassDecl.restyle
  Case.restyle Declarator.restyle Resource.restyle CatchClause.restyle
  Expr.rebuild Stmt.rebuild Method.rebuild Member.rebuild ClassDecl.rebuild
  rebuildExprs rebuildCases rebuildDeclarators rebuildResources rebuildCatches rebuildStmts
  rebuildMembers
  run_rebuildExprs run_rebuildStmts run_rebuildMembers run_rebuildCases run_rebuildDeclarators
  run_rebuildResources run_rebuildCatches
  Part.method? Expr.parts Stmt.parts Member.parts LambdaBody.parts Case.parts
  initParts List.forM_append List.flatMap_map List.flatMap_assoc

mutual

theorem Expr.rebuild_noting : ∀ e : Expr,
    e.rebuild (.noting note style) = do
      (Part.expr e).methods.forM note
      return e.restyle style
  | .literal _ | .name _ | .self _ _ | .super => by
    rw [Part.methods_expr]
    simp
  | .access e _ _ | .methodRef e _ _ | .unary _ e | .cast _ e | .instanceOf e _ _ | .paren e
  | .lambda _ (.expr e) _ => by
    rw [Part.methods_expr]
    simp [e.rebuild_noting]
  | .binary _ l r | .assign _ l r | .index l r => by
    rw [Part.methods_expr]
    simp [l.rebuild_noting, r.rebuild_noting]
  | .conditional c y n => by
    rw [Part.methods_expr]
    simp [c.rebuild_noting, y.rebuild_noting, n.rebuild_noting]
  | .call none _ es _ _ | .create _ es none _ | .newArray _ es _ none | .arrayInit es => by
    rw [Part.methods_expr]
    simp [rebuildExprs_noting es]
  | .call (some r) _ es _ _ => by
    rw [Part.methods_expr]
    simp [r.rebuild_noting, rebuildExprs_noting es]
  | .create _ es (some ⟨_, ds⟩) _ => by
    rw [Part.methods_expr]
    simp [rebuildExprs_noting es, rebuildMembers_noting ds, Part.methods_anonymous]
  | .newArray _ es _ (some es') => by
    rw [Part.methods_expr]
    simp [rebuildExprs_noting es, rebuildExprs_noting es']
  | .switch e cs => by
    rw [Part.methods_expr]
    simp [e.rebuild_noting, rebuildCases_noting cs]
  | .lambda _ (.block ss) _ => by
    rw [Part.methods_expr]
    simp [rebuildStmts_noting ss]

theorem rebuildExprs_noting : ∀ es : List Expr,
    rebuildExprs (.noting note style) es = do
      (es.flatMap fun e => (Part.expr e).methods).forM note
      return es.map (Expr.restyle style)
  | [] => by simp
  | e :: es => by simp [e.rebuild_noting, rebuildExprs_noting es]

theorem rebuildCases_noting : ∀ cs : List Case,
    rebuildCases (.noting note style) cs = do
      ((cs.flatMap Case.parts).flatMap Part.methods).forM note
      return cs.map (Case.restyle style)
  | [] => by simp
  | ⟨es, _, ss⟩ :: cs => by
    simp [rebuildExprs_noting es, rebuildStmts_noting ss, rebuildCases_noting cs]

theorem rebuildDeclarators_noting : ∀ ds : List Declarator,
    rebuildDeclarators (.noting note style) ds = do
      ((initParts ds).flatMap Part.methods).forM note
      return ds.map (Declarator.restyle style)
  | [] => by simp
  | ⟨_, none, _, _⟩ :: ds => by simp [rebuildDeclarators_noting ds]
  | ⟨_, some e, _, _⟩ :: ds => by simp [e.rebuild_noting, rebuildDeclarators_noting ds]

theorem rebuildResources_noting : ∀ rs : List Resource,
    rebuildResources (.noting note style) rs = do
      (rs.flatMap fun r => (Part.expr r.value).methods).forM note
      return rs.map (Resource.restyle style)
  | [] => by simp
  | ⟨_, e⟩ :: rs => by simp [e.rebuild_noting, rebuildResources_noting rs]

theorem rebuildCatches_noting : ∀ cs : List CatchClause,
    rebuildCatches (.noting note style) cs = do
      (cs.flatMap fun c => c.body.flatMap fun s => (Part.stmt s).methods).forM note
      return cs.map (CatchClause.restyle style)
  | [] => by simp
  | ⟨_, ss⟩ :: cs => by simp [rebuildStmts_noting ss, rebuildCatches_noting cs]

theorem Stmt.rebuild_noting : ∀ s : Stmt,
    s.rebuild (.noting note style) = do
      (Part.stmt s).methods.forM note
      return s.restyle style
  | .ret none | .leave _ | .next _ | .empty => by
    rw [Part.methods_stmt]
    simp
  | .block ss => by
    rw [Part.methods_stmt]
    simp [rebuildStmts_noting ss]
  | .locals _ _ ds => by
    rw [Part.methods_stmt]
    simp [rebuildDeclarators_noting ds]
  | .eval e | .ret (some e) | .raise e | .yield e | .check e none => by
    rw [Part.methods_stmt]
    simp [e.rebuild_noting]
  | .ifElse e s none | .whileLoop e s | .doLoop s e | .forEach _ e s => by
    rw [Part.methods_stmt]
    simp [e.rebuild_noting, s.rebuild_noting]
  | .ifElse e s (some t) => by
    rw [Part.methods_stmt]
    simp [e.rebuild_noting, s.rebuild_noting, t.rebuild_noting]
  | .forLoop ss none es s => by
    rw [Part.methods_stmt]
    simp [rebuildStmts_noting ss, rebuildExprs_noting es, s.rebuild_noting]
  | .forLoop ss (some e) es s => by
    rw [Part.methods_stmt]
    simp [rebuildStmts_noting ss, e.rebuild_noting, rebuildExprs_noting es, s.rebuild_noting]
  | .tryCatch rs ss cs none => by
    rw [Part.methods_stmt]
    simp [rebuildResources_noting rs, rebuildStmts_noting ss, rebuildCatches_noting cs]
  | .tryCatch rs ss cs (some ss') => by
    rw [Part.methods_stmt]
    simp [rebuildResources_noting rs, rebuildStmts_noting ss, rebuildCatches_noting cs,
      rebuildStmts_noting ss']
  | .locked e ss => by
    rw [Part.methods_stmt]
    simp [e.rebuild_noting, rebuildStmts_noting ss]
  | .switch e cs => by
    rw [Part.methods_stmt]
    simp [e.rebuild_noting, rebuildCases_noting cs]
  | .labelled _ s => by
    rw [Part.methods_stmt]
    simp [s.rebuild_noting]
  | .check e (some e') => by
    rw [Part.methods_stmt]
    simp [e.rebuild_noting, e'.rebuild_noting]
  | .localClass c => by
    rw [Part.methods_stmt]
    simp [c.rebuild_noting, Part.methods_nested]

theorem rebuildStmts_noting : ∀ ss : List Stmt,
    rebuildStmts (.noting note style) ss = do
      (ss.flatMap fun s => (Part.stmt s).methods).forM note
      return ss.map (Stmt.restyle style)
  | [] => by simp
  | s :: ss => by simp [s.rebuild_noting, rebuildStmts_noting ss]

theorem Method.rebuild_noting : ∀ d : Method,
    d.rebuild (.noting note style) = do
      (Part.member (.method d)).methods.forM note
      return d.restyle style
  | ⟨_, _, _, _, _, _, none, _, _⟩ => by
    rw [Part.methods_eq]
    simp
  | ⟨_, _, _, _, _, _, some ss, _, _⟩ => by
    rw [Part.methods_eq]
    simp [rebuildStmts_noting ss]

theorem Member.rebuild_noting : ∀ d : Member,
    d.rebuild (.noting note style) = do
      (Part.member d).methods.forM note
      return d.restyle style
  | .field ⟨_, _, ds, _⟩ => by
    rw [Part.methods_eq]
    simp [rebuildDeclarators_noting ds]
  | .method d => by simp [d.rebuild_noting]
  | .constructor ⟨_, _, _, _, ss, _⟩ => by
    rw [Part.methods_eq]
    simp [rebuildStmts_noting ss]
  | .initializer _ ss _ => by
    rw [Part.methods_eq]
    simp [rebuildStmts_noting ss]
  | .nested c => by simp [c.rebuild_noting]

theorem rebuildMembers_noting : ∀ ds : List Member,
    rebuildMembers (.noting note style) ds = do
      (ds.flatMap fun d => (Part.member d).methods).forM note
      return ds.map (Member.restyle style)
  | [] => by simp
  | d :: ds => by simp [d.rebuild_noting, rebuildMembers_noting ds]

theorem ClassDecl.rebuild_noting : ∀ c : ClassDecl,
    c.rebuild (.noting note style) = do
      (Part.member (.nested c)).methods.forM note
      return c.restyle style
  | ⟨_, _, _, _, _, _, ds, _⟩ => by
    rw [Part.methods_nested]
    simp [rebuildMembers_noting ds]

end

theorem rebuildClasses_noting (cs : List ClassDecl) :
    rebuildClasses (.noting note style) cs = do
      (cs.flatMap fun c => (Part.member (.nested c)).methods).forM note
      return cs.map (ClassDecl.restyle style) := by
  induction cs with
  | nil => simp [rebuildClasses]
  | cons c cs ih => simp [rebuildClasses, ClassDecl.rebuild_noting style note c, ih]

/-- Over a unit: the effects of all methods in the order of the outline, and the restyled unit. -/
theorem CompilationUnit.rebuild_noting (u : CompilationUnit) :
    u.rebuild (.noting note style) = do
      u.outline.methods.forM note
      return u.restyle style := by
  rw [CompilationUnit.methods_outline]
  simp [CompilationUnit.rebuild, rebuildClasses_noting, CompilationUnit.restyle]

end Walk

/-! ### What restyling leaves alone -/

theorem Method.run_rebuild (d : Method) :
    (d.rebuild (.restyling style)).run = d.restyle style := rfl

theorem ClassDecl.run_rebuild (c : ClassDecl) :
    (c.rebuild (.restyling style)).run = c.restyle style := rfl

section Frame

attribute [local simp] Part.restyle Expr.restyle Stmt.restyle Member.restyle AnonymousBody.restyle
  Resource.restyle CatchClause.restyle
  Expr.rebuild Stmt.rebuild Member.rebuild
  Method.run_rebuild Method.restyle_eq ClassDecl.run_rebuild ClassDecl.restyle_eq
  run_rebuildExprs run_rebuildStmts run_rebuildMembers run_rebuildCases run_rebuildDeclarators
  run_rebuildResources run_rebuildCatches

theorem Case.parts_restyle (c : Case) :
    (c.restyle style).parts = c.parts.map (Part.restyle style) := by
  simp [Case.parts, Case.restyle, Function.comp_def]

theorem initParts_restyle (ds : List Declarator) :
    initParts (ds.map (Declarator.restyle style)) = (initParts ds).map (Part.restyle style) := by
  induction ds with
  | nil => rfl
  | cons d ds ih =>
    obtain ⟨n, _ | init, signature, span⟩ := d
    · simpa [initParts, Declarator.restyle] using ih
    · simpa [initParts, Declarator.restyle] using ih

theorem Expr.isReceiver_rebuild (e : Expr) :
    (e.rebuild (.restyling style)).run.isReceiver = e.isReceiver := by
  fun_cases Expr.rebuild (Hooks.restyling style) e <;> simp [Expr.isReceiver]

theorem Expr.simpleName?_rebuild (e : Expr) :
    (e.rebuild (.restyling style)).run.simpleName? = e.simpleName? := by
  fun_cases Expr.rebuild (Hooks.restyling style) e <;> simp [Expr.simpleName?]

/-- A node for the restyled tree: only the one of a method declaration is another. -/
def Node.restyle : Node → Node
  | .method d => .method (d.restyle style)
  | n => n

namespace Part

/-- The direct parts of a restyled part are the restyled direct parts. -/
theorem children_restyle (p : Part) :
    (p.restyle style).children = p.children.map (Part.restyle style) := by
  cases p with
  | expr e =>
    fun_cases Expr.rebuild (Hooks.restyling style) e <;>
      simp [Expr.parts, LambdaBody.parts, Case.parts_restyle, List.flatMap_map, List.map_flatMap,
        Function.comp_def]
  | stmt s =>
    fun_cases Stmt.rebuild (Hooks.restyling style) s <;>
      simp [Stmt.parts, Case.parts_restyle, initParts_restyle, List.flatMap_map, List.map_flatMap,
        Function.comp_def]
  | anonymous body => simp [Function.comp_def]
  | member d =>
    fun_cases Member.rebuild (Hooks.restyling style) d with
    | case2 d =>
      obtain ⟨_, _, _, _, _, _, _ | body, _, _⟩ := d <;> simp [Member.parts, Function.comp_def]
    | _ => simp [Member.parts, initParts_restyle, Function.comp_def]

theorem frame?_restyle (p : Part) : (p.restyle style).frame? = p.frame? := by
  cases p with
  | expr e => rfl
  | stmt s => fun_cases Stmt.rebuild (Hooks.restyling style) s <;> simp [frame?]
  | anonymous body => rfl
  | member d => fun_cases Member.rebuild (Hooks.restyling style) d <;> simp [frame?]

theorem lead_restyle (p : Part) :
    (p.restyle style).lead = p.lead.map (Node.restyle style) := by
  cases p with
  | expr e =>
    fun_cases Expr.rebuild (Hooks.restyling style) e <;>
      simp [lead, Node.restyle, implicitReceiver, Expr.isReceiver_rebuild,
        Expr.simpleName?_rebuild]
  | stmt s => rfl
  | anonymous body => rfl
  | member d =>
    fun_cases Member.rebuild (Hooks.restyling style) d <;>
      simp [lead, Node.restyle]

theorem trail_restyle (p : Part) :
    (p.restyle style).trail = p.trail.map (Node.restyle style) := by
  cases p with
  | expr e =>
    fun_cases Expr.rebuild (Hooks.restyling style) e <;>
      simp [trail, Node.restyle, Expr.isReceiver_rebuild]
  | stmt s => rfl
  | anonymous body => rfl
  | member d => rfl

end Part

end Frame

section Collect

variable {style} {α : Type} {f : List Frame → Node → List α} {φ : α → α}

/-- What is collected over a restyled part, if `φ` tells what restyling a node does to its
    contribution. -/
theorem Part.collect_restyle (hf : Sparse f)
    (hnode : ∀ frames n, f frames (n.restyle style) = (f frames n).map φ) (p : Part)
    (frames : List Frame) :
    (p.restyle style).outline.collect f frames = (p.outline.collect f frames).map φ := by
  induction p using Part.induction generalizing frames with
  | step p ih =>
    have hnodes : ∀ ns : List Node,
        (ns.map (Node.restyle style)).flatMap (f frames) = (ns.flatMap (f frames)).map φ := by
      intro ns
      simp only [List.flatMap_map, List.map_flatMap, hnode]
    have henter : (p.restyle style).enter frames = p.enter frames := by
      rw [Part.enter, Part.enter, frame?_restyle]
    have hchildren :
        (p.children.map (Part.restyle style)).flatMap
            (fun q => q.outline.collect f (p.enter frames)) =
          (p.children.flatMap fun q => q.outline.collect f (p.enter frames)).map φ := by
      rw [List.flatMap_map, List.map_flatMap]
      exact List.flatMap_congr fun q hq => ih q hq _
    rw [collect_outline hf, collect_outline hf, children_restyle, lead_restyle, trail_restyle,
      henter, hnodes, hnodes, hchildren, List.map_append, List.map_append]

theorem CompilationUnit.collect_restyle (hf : Sparse f)
    (hnode : ∀ frames n, f frames (n.restyle style) = (f frames n).map φ) (u : CompilationUnit)
    (frames : List Frame) :
    (u.restyle style).outline.collect f frames = (u.outline.collect f frames).map φ := by
  have hclass : ∀ c : ClassDecl,
      (Part.member (.nested (c.restyle style))).outline.collect f frames =
        ((Part.member (.nested c)).outline.collect f frames).map φ := by
    intro c
    rw [← Member.restyle_nested]
    exact Part.collect_restyle hf hnode (.member (.nested c)) frames
  rw [hf.collect_unit, hf.collect_unit, CompilationUnit.restyle, List.flatMap_map,
    List.map_flatMap]
  exact List.flatMap_congr fun c _ => hclass c

end Collect

/-- The methods of a restyled unit are its methods, restyled one by one. -/
theorem CompilationUnit.methods_restyle (u : CompilationUnit) :
    (u.restyle style).outline.methods = u.outline.methods.map (Method.restyle style) := by
  rw [Outline.methods, Outline.methods, Outline.filterMap_nodes _ [], Outline.filterMap_nodes _ []]
  refine u.collect_restyle Node.sparse_method? (fun _ n => ?_) []
  cases n <;> rfl

/-! ### Where nothing changes -/

/-- The part is the same when restyled. -/
def Part.Kept (style : Style) (p : Part) : Prop := p.restyle style = p

section Kept

variable {style : Style} {α : Type}

theorem Part.kept_expr {e : Expr} : (Part.expr e).Kept style ↔ e.restyle style = e := by
  simp [Part.Kept, Part.restyle]

theorem Part.kept_stmt {s : Stmt} : (Part.stmt s).Kept style ↔ s.restyle style = s := by
  simp [Part.Kept, Part.restyle]

theorem Part.kept_member {d : Member} : (Part.member d).Kept style ↔ d.restyle style = d := by
  simp [Part.Kept, Part.restyle]

theorem Part.kept_anonymous {body : AnonymousBody} :
    (Part.anonymous body).Kept style ↔ body.members.map (Member.restyle style) = body.members := by
  cases body
  simp [Part.Kept, Part.restyle, AnonymousBody.restyle]

theorem kept_flatMap {parts : α → List Part} {f : α → α}
    (h : ∀ x, (∀ q ∈ parts x, q.Kept style) ↔ f x = x) (xs : List α) :
    (∀ q ∈ xs.flatMap parts, q.Kept style) ↔ xs.map f = xs := by
  induction xs with
  | nil => simp
  | cons x xs ih =>
    rw [List.flatMap_cons, List.forall_mem_append, h x, ih, List.map_cons, List.cons.injEq]

theorem kept_map {part : α → Part} {f : α → α} (h : ∀ x, (part x).Kept style ↔ f x = x)
    (xs : List α) : (∀ q ∈ xs.map part, q.Kept style) ↔ xs.map f = xs := by
  rw [List.map_eq_flatMap]
  exact kept_flatMap (fun x => by rw [List.forall_mem_singleton, h x]) xs

theorem kept_exprs (es : List Expr) :
    (∀ q ∈ es.map Part.expr, q.Kept style) ↔ es.map (Expr.restyle style) = es :=
  kept_map (fun _ => Part.kept_expr) es

theorem kept_stmts (ss : List Stmt) :
    (∀ q ∈ ss.map Part.stmt, q.Kept style) ↔ ss.map (Stmt.restyle style) = ss :=
  kept_map (fun _ => Part.kept_stmt) ss

theorem kept_members (ds : List Member) :
    (∀ q ∈ ds.map Part.member, q.Kept style) ↔ ds.map (Member.restyle style) = ds :=
  kept_map (fun _ => Part.kept_member) ds

theorem kept_resources (rs : List Resource) :
    (∀ q ∈ rs.map (fun r => Part.expr r.value), q.Kept style) ↔
      rs.map (Resource.restyle style) = rs := by
  refine kept_map (fun r => ?_) rs
  cases r
  simp [Part.kept_expr, Resource.restyle]

theorem kept_cases (cs : List Case) :
    (∀ q ∈ cs.flatMap Case.parts, q.Kept style) ↔ cs.map (Case.restyle style) = cs := by
  refine kept_flatMap (fun c => ?_) cs
  cases c
  rw [Case.parts, List.forall_mem_append, kept_exprs, kept_stmts]
  simp [Case.restyle]

theorem kept_inits (ds : List Declarator) :
    (∀ q ∈ initParts ds, q.Kept style) ↔ ds.map (Declarator.restyle style) = ds := by
  refine kept_flatMap (fun d => ?_) ds
  obtain ⟨n, _ | init, signature, span⟩ := d
  · simp [Declarator.restyle]
  · simp [Declarator.restyle, Part.kept_expr]

theorem kept_catches (cs : List CatchClause) :
    (∀ q ∈ cs.flatMap (fun c => c.body.map Part.stmt), q.Kept style) ↔
      cs.map (CatchClause.restyle style) = cs := by
  refine kept_flatMap (fun c => ?_) cs
  cases c
  rw [kept_stmts]
  simp [CatchClause.restyle]

theorem ClassDecl.restyle_eq_self {c : ClassDecl}
    (h : c.members.map (Member.restyle style) = c.members) : c.restyle style = c := by
  rw [restyle_eq, h]
  cases c
  rfl

theorem Expr.kept (e : Expr) (h : ∀ q ∈ e.parts, q.Kept style) : (Part.expr e).Kept style := by
  rw [Part.kept_expr, Expr.restyle]
  fun_cases Expr.rebuild (Hooks.restyling style) e <;>
    simp only [Expr.parts, LambdaBody.parts, Option.toList_none, Option.toList_some, List.map_nil,
      List.map_cons, Option.getD_none, Option.getD_some, List.forall_mem_append,
      List.forall_mem_cons, kept_exprs, kept_stmts, kept_cases, Part.kept_expr,
      Part.kept_anonymous, Expr.restyle] at h <;>
    simp_all [run_rebuildExprs, run_rebuildStmts, run_rebuildMembers, run_rebuildCases]

theorem Stmt.kept (s : Stmt) (h : ∀ q ∈ s.parts, q.Kept style) : (Part.stmt s).Kept style := by
  rw [Part.kept_stmt, Stmt.restyle]
  fun_cases Stmt.rebuild (Hooks.restyling style) s with
  | case22 decl =>
    have hdecl := ClassDecl.restyle_eq_self ((kept_members decl.members).mp h)
    simp [ClassDecl.run_rebuild, hdecl]
  | _ =>
    simp only [Stmt.parts, Option.toList_none, Option.toList_some, List.map_nil, List.map_cons,
      Option.getD_none, Option.getD_some, List.forall_mem_append, List.forall_mem_cons,
      kept_exprs, kept_stmts, kept_cases, kept_inits, kept_resources, kept_catches,
      Part.kept_expr, Part.kept_stmt, Expr.restyle, Stmt.restyle] at h
    simp_all [run_rebuildExprs, run_rebuildStmts, run_rebuildCases, run_rebuildDeclarators,
      run_rebuildResources, run_rebuildCatches]

theorem Member.kept (d : Member) (h : ∀ q ∈ d.parts, q.Kept style)
    (hmethod : ∀ m, d = .method m → style m m.modifiers = m.modifiers) :
    (Part.member d).Kept style := by
  rw [Part.kept_member]
  cases d with
  | field f =>
    cases f
    simpa [Member.restyle_field] using (kept_inits _).mp h
  | method m =>
    obtain ⟨_, _, _, _, _, _, _ | body, _, _⟩ := m
    · simpa [Member.restyle_method, Method.restyle_eq] using hmethod _ rfl
    · have hbody := (kept_stmts body).mp h
      simpa [Member.restyle_method, Method.restyle_eq, hbody] using hmethod _ rfl
  | constructor k =>
    cases k
    simpa [Member.restyle_constructor] using (kept_stmts _).mp h
  | initializer isStatic body span =>
    simpa [Member.restyle_initializer] using (kept_stmts _).mp h
  | nested c =>
    rw [Member.restyle_nested, ClassDecl.restyle_eq_self ((kept_members c.members).mp h)]

/-- A part is the same when restyled if the modifiers of all methods in it are. -/
theorem Part.kept_of_methods (p : Part)
    (h : ∀ m ∈ p.methods, style m m.modifiers = m.modifiers) : p.Kept style := by
  induction p using Part.induction with
  | step p ih =>
    rw [methods_eq] at h
    have hchildren : ∀ q ∈ p.children, q.Kept style := by
      intro q hq
      refine ih q hq fun m hm => h m (List.mem_append_right _ ?_)
      exact List.mem_flatMap.mpr ⟨q, hq, hm⟩
    cases p with
    | expr e => exact e.kept hchildren
    | stmt s => exact s.kept hchildren
    | anonymous body => exact Part.kept_anonymous.mpr ((kept_members body.members).mp hchildren)
    | member d =>
      refine d.kept hchildren ?_
      rintro m rfl
      exact h m (List.mem_append_left _ List.mem_cons_self)

theorem CompilationUnit.restyle_eq_self {u : CompilationUnit}
    (h : ∀ m ∈ u.outline.methods, style m m.modifiers = m.modifiers) : u.restyle style = u := by
  rw [methods_outline] at h
  have hclasses : ∀ c ∈ u.classes, c.restyle style = c := by
    intro c hc
    have hkept : (Part.member (.nested c)).Kept style := by
      refine Part.kept_of_methods _ fun m hm => ?_
      exact h m (List.mem_flatMap.mpr ⟨c, hc, hm⟩)
    rw [Part.kept_member, Member.restyle_nested] at hkept
    exact Member.nested.inj hkept
  rw [restyle, List.map_congr_left hclasses, List.map_id']

end Kept

end Receiverless
