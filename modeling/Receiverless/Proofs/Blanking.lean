/-
  Receiverless/Proofs/Blanking.lean
  =================================
  **What a run leaves alone.**  Two units that differ in nothing but the
  modifiers of their methods are the same once these are blanked.  `blank` is
  defined here by recursion over the tree, independently of the walk of the
  pass, so that a walk that lost or moved a construct could not hide behind it.

    * Restyling and then blanking is blanking (`CompilationUnit.blank_restyle`):
      one induction over all forms of construct.
    * Every construct has a position, the path of places that leads down to it,
      and restyling acts position by position (`Part.at?_restyle`).
    * `CompilationUnit.run_changes_only_modifiers` puts the two together: blanked,
      the unit that comes out is the one that went in, and the method at each
      position has the modifiers that the verdict on it asks for.
-/
import Receiverless.Proofs.PassRun
import Receiverless.Draft.Shorthand

namespace Receiverless

/-! ### Blanking the modifiers of methods -/

mutual

def Expr.blank : Expr → Expr
  | .literal v => .literal v
  | .name n => .name n
  | .self qualifier s => .self qualifier s
  | .super => .super
  | .access target n s => .access target.blank n s
  | .call receiver n args t s => .call (blankExpr? receiver) n (blankExprs args) t s
  | .methodRef target n s => .methodRef target.blank n s
  | .unary op operand => .unary op operand.blank
  | .binary op left right => .binary op left.blank right.blank
  | .assign op target value => .assign op target.blank value.blank
  | .conditional condition yes no => .conditional condition.blank yes.blank no.blank
  | .create t args none s => .create t (blankExprs args) none s
  | .create t args (some ⟨type, members⟩) s =>
    .create t (blankExprs args) (some ⟨type, blankMembers members⟩) s
  | .index array position => .index array.blank position.blank
  | .newArray t dimensions extra none => .newArray t (blankExprs dimensions) extra none
  | .newArray t dimensions extra (some elements) =>
    .newArray t (blankExprs dimensions) extra (some (blankExprs elements))
  | .arrayInit elements => .arrayInit (blankExprs elements)
  | .cast t operand => .cast t operand.blank
  | .instanceOf operand t binding => .instanceOf operand.blank t binding
  | .switch selector cases => .switch selector.blank (blankCases cases)
  | .lambda params (.expr value) s => .lambda params (.expr value.blank) s
  | .lambda params (.block statements) s => .lambda params (.block (blankStmts statements)) s
  | .paren inner => .paren inner.blank

def blankExpr? : Option Expr → Option Expr
  | none => none
  | some e => some e.blank

def blankExprs : List Expr → List Expr
  | [] => []
  | e :: es => e.blank :: blankExprs es

def blankCases : List Case → List Case
  | [] => []
  | ⟨labels, arrow, statements⟩ :: rest =>
    ⟨blankExprs labels, arrow, blankStmts statements⟩ :: blankCases rest

def blankDeclarators : List Declarator → List Declarator
  | [] => []
  | ⟨n, init, signature, s⟩ :: rest => ⟨n, blankExpr? init, signature, s⟩ :: blankDeclarators rest

def blankResources : List Resource → List Resource
  | [] => []
  | ⟨declares, value⟩ :: rest => ⟨declares, value.blank⟩ :: blankResources rest

def blankCatches : List CatchClause → List CatchClause
  | [] => []
  | ⟨param, statements⟩ :: rest => ⟨param, blankStmts statements⟩ :: blankCatches rest

def Stmt.blank : Stmt → Stmt
  | .block statements => .block (blankStmts statements)
  | .locals modifiers t declarators => .locals modifiers t (blankDeclarators declarators)
  | .eval value => .eval value.blank
  | .ret value => .ret (blankExpr? value)
  | .ifElse condition yes no => .ifElse condition.blank yes.blank (blankStmt? no)
  | .whileLoop condition body => .whileLoop condition.blank body.blank
  | .doLoop body condition => .doLoop body.blank condition.blank
  | .forLoop init condition update body =>
    .forLoop (blankStmts init) (blankExpr? condition) (blankExprs update) body.blank
  | .forEach param iterable body => .forEach param iterable.blank body.blank
  | .raise value => .raise value.blank
  | .tryCatch resources body catches none =>
    .tryCatch (blankResources resources) (blankStmts body) (blankCatches catches) none
  | .tryCatch resources body catches (some final) =>
    .tryCatch (blankResources resources) (blankStmts body) (blankCatches catches)
      (some (blankStmts final))
  | .locked lock body => .locked lock.blank (blankStmts body)
  | .switch selector cases => .switch selector.blank (blankCases cases)
  | .yield value => .yield value.blank
  | .labelled label body => .labelled label body.blank
  | .check condition message => .check condition.blank (blankExpr? message)
  | .localClass decl => .localClass decl.blank
  | .leave label => .leave label
  | .next label => .next label
  | .empty => .empty

def blankStmt? : Option Stmt → Option Stmt
  | none => none
  | some s => some s.blank

def blankStmts : List Stmt → List Stmt
  | [] => []
  | s :: rest => s.blank :: blankStmts rest

/-- The method without modifiers, and its body with the modifiers of the methods in it blanked. -/
def Method.blank : Method → Method
  | ⟨_, typeParams, result, n, params, throws, none, signature, s⟩ =>
    ⟨[], typeParams, result, n, params, throws, none, signature, s⟩
  | ⟨_, typeParams, result, n, params, throws, some body, signature, s⟩ =>
    ⟨[], typeParams, result, n, params, throws, some (blankStmts body), signature, s⟩

def Member.blank : Member → Member
  | .field ⟨modifiers, t, declarators, s⟩ =>
    .field ⟨modifiers, t, blankDeclarators declarators, s⟩
  | .method decl => .method decl.blank
  | .constructor ⟨modifiers, n, params, throws, body, s⟩ =>
    .constructor ⟨modifiers, n, params, throws, blankStmts body, s⟩
  | .initializer isStatic body s => .initializer isStatic (blankStmts body) s
  | .nested decl => .nested decl.blank

def blankMembers : List Member → List Member
  | [] => []
  | d :: rest => d.blank :: blankMembers rest

def ClassDecl.blank : ClassDecl → ClassDecl
  | ⟨modifiers, kind, n, t, superclass, interfaces, members, s⟩ =>
    ⟨modifiers, kind, n, t, superclass, interfaces, blankMembers members, s⟩

end

/-- The unit with the modifiers of all its methods blanked, at every depth. -/
def CompilationUnit.blank (u : CompilationUnit) : CompilationUnit :=
  { u with classes := u.classes.map ClassDecl.blank }

/-! ### Restyling is invisible to it -/

section BlankRestyle

variable (style : Style)

attribute [local simp] Expr.blank Stmt.blank Method.blank Member.blank ClassDecl.blank
  blankExpr? blankExprs blankCases blankDeclarators blankResources blankCatches blankStmt?
  blankStmts blankMembers
  Expr.restyle Stmt.restyle Method.restyle Member.restyle ClassDecl.restyle
  Case.restyle Declarator.restyle Resource.restyle CatchClause.restyle
  Expr.rebuild Stmt.rebuild Method.rebuild Member.rebuild ClassDecl.rebuild
  run_rebuildExprs run_rebuildStmts run_rebuildMembers run_rebuildCases run_rebuildDeclarators
  run_rebuildResources run_rebuildCatches

mutual

theorem Expr.blank_restyle : ∀ e : Expr, (e.restyle style).blank = e.blank
  | .literal _ | .name _ | .self _ _ | .super => by simp
  | .access e _ _ | .methodRef e _ _ | .unary _ e | .cast _ e | .instanceOf e _ _ | .paren e
  | .lambda _ (.expr e) _ => by simpa using e.blank_restyle
  | .binary _ l r | .assign _ l r | .index l r => by simpa using ⟨l.blank_restyle, r.blank_restyle⟩
  | .conditional c y n => by simpa using ⟨c.blank_restyle, y.blank_restyle, n.blank_restyle⟩
  | .call none _ es _ _ | .create _ es none _ | .newArray _ es _ none | .arrayInit es => by
    simpa using blankExprs_restyle es
  | .call (some r) _ es _ _ => by simpa using ⟨r.blank_restyle, blankExprs_restyle es⟩
  | .create _ es (some ⟨_, ds⟩) _ => by simpa using ⟨blankExprs_restyle es, blankMembers_restyle ds⟩
  | .newArray _ es _ (some es') => by simpa using ⟨blankExprs_restyle es, blankExprs_restyle es'⟩
  | .switch e cs => by simpa using ⟨e.blank_restyle, blankCases_restyle cs⟩
  | .lambda _ (.block ss) _ => by simpa using blankStmts_restyle ss

theorem blankExprs_restyle : ∀ es : List Expr,
    blankExprs (es.map (Expr.restyle style)) = blankExprs es
  | [] => rfl
  | e :: es => by simpa using ⟨e.blank_restyle, blankExprs_restyle es⟩

theorem blankCases_restyle : ∀ cs : List Case,
    blankCases (cs.map (Case.restyle style)) = blankCases cs
  | [] => rfl
  | ⟨es, _, ss⟩ :: cs => by
    simpa using ⟨⟨blankExprs_restyle es, blankStmts_restyle ss⟩, blankCases_restyle cs⟩

theorem blankDeclarators_restyle : ∀ ds : List Declarator,
    blankDeclarators (ds.map (Declarator.restyle style)) = blankDeclarators ds
  | [] => rfl
  | ⟨_, none, _, _⟩ :: ds => by simpa using blankDeclarators_restyle ds
  | ⟨_, some e, _, _⟩ :: ds => by simpa using ⟨e.blank_restyle, blankDeclarators_restyle ds⟩

theorem blankResources_restyle : ∀ rs : List Resource,
    blankResources (rs.map (Resource.restyle style)) = blankResources rs
  | [] => rfl
  | ⟨_, e⟩ :: rs => by simpa using ⟨e.blank_restyle, blankResources_restyle rs⟩

theorem blankCatches_restyle : ∀ cs : List CatchClause,
    blankCatches (cs.map (CatchClause.restyle style)) = blankCatches cs
  | [] => rfl
  | ⟨_, ss⟩ :: cs => by simpa using ⟨blankStmts_restyle ss, blankCatches_restyle cs⟩

theorem Stmt.blank_restyle : ∀ s : Stmt, (s.restyle style).blank = s.blank
  | .ret none | .leave _ | .next _ | .empty => by simp
  | .block ss => by simpa using blankStmts_restyle ss
  | .locals _ _ ds => by simpa using blankDeclarators_restyle ds
  | .eval e | .ret (some e) | .raise e | .yield e | .check e none => by simpa using e.blank_restyle
  | .ifElse e s none | .whileLoop e s | .forEach _ e s => by
    simpa using ⟨e.blank_restyle, s.blank_restyle⟩
  | .doLoop s e => by simpa using ⟨s.blank_restyle, e.blank_restyle⟩
  | .ifElse e s (some t) => by simpa using ⟨e.blank_restyle, s.blank_restyle, t.blank_restyle⟩
  | .forLoop ss none es s => by
    simpa using ⟨blankStmts_restyle ss, blankExprs_restyle es, s.blank_restyle⟩
  | .forLoop ss (some e) es s => by
    simpa using ⟨blankStmts_restyle ss, e.blank_restyle, blankExprs_restyle es, s.blank_restyle⟩
  | .tryCatch rs ss cs none => by
    simpa using ⟨blankResources_restyle rs, blankStmts_restyle ss, blankCatches_restyle cs⟩
  | .tryCatch rs ss cs (some ss') => by
    simpa using ⟨blankResources_restyle rs, blankStmts_restyle ss, blankCatches_restyle cs,
      blankStmts_restyle ss'⟩
  | .locked e ss => by simpa using ⟨e.blank_restyle, blankStmts_restyle ss⟩
  | .switch e cs => by simpa using ⟨e.blank_restyle, blankCases_restyle cs⟩
  | .labelled _ s => by simpa using s.blank_restyle
  | .check e (some e') => by simpa using ⟨e.blank_restyle, e'.blank_restyle⟩
  | .localClass c => by simpa using c.blank_restyle

theorem blankStmts_restyle : ∀ ss : List Stmt,
    blankStmts (ss.map (Stmt.restyle style)) = blankStmts ss
  | [] => rfl
  | s :: ss => by simpa using ⟨s.blank_restyle, blankStmts_restyle ss⟩

theorem Method.blank_restyle : ∀ d : Method, (d.restyle style).blank = d.blank
  | ⟨_, _, _, _, _, _, none, _, _⟩ => by simp
  | ⟨_, _, _, _, _, _, some ss, _, _⟩ => by simpa using blankStmts_restyle ss

theorem Member.blank_restyle : ∀ d : Member, (d.restyle style).blank = d.blank
  | .field ⟨_, _, ds, _⟩ => by simpa using blankDeclarators_restyle ds
  | .method d => by simpa using d.blank_restyle
  | .constructor ⟨_, _, _, _, ss, _⟩ | .initializer _ ss _ => by simpa using blankStmts_restyle ss
  | .nested c => by simpa using c.blank_restyle

theorem blankMembers_restyle : ∀ ds : List Member,
    blankMembers (ds.map (Member.restyle style)) = blankMembers ds
  | [] => rfl
  | d :: ds => by simpa using ⟨d.blank_restyle, blankMembers_restyle ds⟩

theorem ClassDecl.blank_restyle : ∀ c : ClassDecl, (c.restyle style).blank = c.blank
  | ⟨_, _, _, _, _, _, ds, _⟩ => by simpa using blankMembers_restyle ds

end

theorem CompilationUnit.blank_restyle (u : CompilationUnit) :
    (u.restyle style).blank = u.blank := by
  have hclasses : (u.classes.map (ClassDecl.restyle style)).map ClassDecl.blank =
      u.classes.map ClassDecl.blank := by
    rw [List.map_map]
    exact List.map_congr_left fun c _ => c.blank_restyle style
  rw [restyle, blank, blank]
  simp only [hclasses]

end BlankRestyle

/-! ### Positions -/

/-- The part that a path leads to.  Each step of a path is the place of the next part among the
    direct parts of the one before. -/
def Part.at? (p : Part) : List Nat → Option Part
  | [] => some p
  | i :: path => p.children[i]?.bind fun q => q.at? path

namespace CompilationUnit

/-- In a unit, the first step of a path is the place of a class. -/
def at? (u : CompilationUnit) : List Nat → Option Part
  | [] => none
  | i :: path => u.classes[i]?.bind fun c => (Part.member (.nested c)).at? path

def methodAt? (u : CompilationUnit) (path : List Nat) : Option Method :=
  (u.at? path).bind Part.method?

end CompilationUnit

section Positions

variable (style : Style)

theorem Part.at?_restyle (p : Part) (path : List Nat) :
    (p.restyle style).at? path = (p.at? path).map (Part.restyle style) := by
  induction path generalizing p with
  | nil => rfl
  | cons i path ih =>
    rw [Part.at?, Part.at?, children_restyle, List.getElem?_map]
    cases p.children[i]? with
    | none => rfl
    | some q => exact ih q

theorem Part.method?_restyle (p : Part) :
    (p.restyle style).method? = p.method?.map (Method.restyle style) := by
  cases p with
  | expr e => rfl
  | stmt s => rfl
  | anonymous body => rfl
  | member d =>
    cases d with
    | field f => simp [Part.restyle, Member.restyle_field, Part.method?]
    | method d => simp [Part.restyle, Member.restyle_method, Part.method?]
    | constructor k => simp [Part.restyle, Member.restyle_constructor, Part.method?]
    | initializer isStatic body span =>
      simp [Part.restyle, Member.restyle_initializer, Part.method?]
    | nested c => simp [Part.restyle, Member.restyle_nested, Part.method?]

/-- The method at a position of the restyled unit is the restyled method at that position. -/
theorem CompilationUnit.methodAt?_restyle (u : CompilationUnit) (path : List Nat) :
    (u.restyle style).methodAt? path = (u.methodAt? path).map (Method.restyle style) := by
  have hat : (u.restyle style).at? path = (u.at? path).map (Part.restyle style) := by
    cases path with
    | nil => rfl
    | cons i path =>
      rw [at?, at?, restyle, List.getElem?_map]
      cases u.classes[i]? with
      | none => rfl
      | some c =>
        have hpart := (Part.member (.nested c)).at?_restyle style path
        rw [Part.restyle, Member.restyle_nested] at hpart
        exact hpart
  rw [methodAt?, methodAt?, hat]
  cases u.at? path with
  | none => rfl
  | some p => exact p.method?_restyle style

end Positions

theorem Part.holds_of_at? {p q : Part} {path : List Nat} (h : p.at? path = some q) :
    p.Holds q := by
  induction path generalizing p with
  | nil =>
    obtain rfl : p = q := Option.some.inj h
    exact Part.Reaches.refl
  | cons i path ih =>
    rw [Part.at?] at h
    obtain ⟨r, hr, hq⟩ := Option.bind_eq_some_iff.mp h
    exact (Part.holds_of_mem_children (List.mem_of_getElem? hr)).trans (ih hq)

namespace CompilationUnit

variable {u : CompilationUnit} {path : List Nat} {m m' : Method}

theorem holds_of_methodAt? {i : Nat} {c : ClassDecl} (hc : u.classes[i]? = some c)
    (hm : u.methodAt? (i :: path) = some m) :
    (Part.member (.nested c)).Holds (.member (.method m)) := by
  rw [methodAt?, at?, hc, Option.bind_some] at hm
  obtain ⟨p, hp, hpm⟩ := Option.bind_eq_some_iff.mp hm
  rw [← Part.eq_of_method?_eq_some hpm]
  exact Part.holds_of_at? hp

theorem exists_holds_of_methodAt? (hm : u.methodAt? path = some m) :
    ∃ c ∈ u.classes, (Part.member (.nested c)).Holds (.member (.method m)) := by
  rcases path with _ | ⟨i, path⟩
  · cases hm
  · rcases hc : u.classes[i]? with _ | c
    · rw [methodAt?, at?, hc] at hm
      cases hm
    · exact ⟨c, List.mem_of_getElem? hc, holds_of_methodAt? hc hm⟩

/-- What becomes of the method at a position. -/
theorem eq_restyle_of_methodAt? {s : Settings} (hm : u.methodAt? path = some m)
    (hm' : (u.run s).unit.methodAt? path = some m') : m' = m.restyle (u.analysis.style s) := by
  rw [run_eq, methodAt?_restyle, hm] at hm'
  exact (Option.some.inj hm').symm

end CompilationUnit

/-! ### The frame of a run -/

namespace CompilationUnit

/-- **A run changes modifiers only.**  With the modifiers of methods blanked, the unit that comes
    out is the unit that went in; and the method at each position has the keyword `static` put in if
    it was eligible, and the modifiers it had otherwise. -/
theorem run_changes_only_modifiers (s : Settings) (hs : s.dryRun = false) (u : CompilationUnit) :
    (u.run s).unit.blank = u.blank ∧
      ∀ path, ((u.run s).unit.methodAt? path).map Method.modifiers =
        (u.methodAt? path).map fun d =>
          if u.analysis.isEligible d then (d.asStatic s.order).modifiers else d.modifiers := by
  rw [run_eq]
  refine ⟨u.blank_restyle _, ?_⟩
  intro path
  rw [methodAt?_restyle, Option.map_map]
  congr 1
  funext d
  simp only [Function.comp_apply, Method.restyle_eq, Analysis.style, hs, Bool.not_false,
    Bool.and_true]
  rfl

/-- `class Desk { private Task make() { return new Task() { final int run() { } }; } }` -/
def desk : CompilationUnit where
  classes := [ClassDraft.declare ⟨[], .class, "Desk", none, none, [], [.method
    { keywords := [.private], result := "Task", name := "make"
      body := some [.ret (some (.anonymous "Task" "Desk$1"
        [{ keywords := [.final], result := "int", name := "run" }]))] }]⟩]

/-- The outer method becomes static.  The one in the anonymous class in its body is found below it,
    and stays as it was. -/
theorem desk_run_changes_only_modifiers :
    (desk.run {}).unit.blank = desk.blank ∧
      ((desk.run {}).unit.methodAt? [0, 0]).map Method.modifiers =
        some (Modifiers.ofKeywords [.private, .static]) ∧
      ((desk.run {}).unit.methodAt? [0, 0, 0, 0, 0, 0]).map Method.modifiers =
        some (Modifiers.ofKeywords [.final]) := by
  have h := run_changes_only_modifiers {} rfl desk
  refine ⟨h.1, ?_, ?_⟩
  · exact (h.2 [0, 0]).trans (by decide)
  · exact (h.2 [0, 0, 0, 0, 0, 0]).trans (by decide)

end CompilationUnit

end Receiverless
