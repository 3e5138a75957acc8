/-
  Receiverless/Proofs/Layouts.lean
  ================================
  **Layouts of lists.**  The layouts of the lists in a tree are written as
  recursions of their own.  Here they are turned into maps: one layout for each
  variable, resource, handler, switch group and statement, put together by
  `separated`, `spacedMembers` or plain concatenation.
-/
import Mathlib.Data.List.Basic
import Receiverless.Layout.Source

namespace Receiverless

open Layout (text separated line braced body)

namespace Layout

theorem render_nil : render [] = "" := rfl

theorem render_append (l m : Layout) : (l ++ m).render = l.render ++ m.render := by
  rw [render, List.map_append, String.join_append, render, render]

theorem render_cons (c : Chunk) (l : Layout) : render (c :: l) = c.render ++ l.render := by
  rw [render, List.map_cons, String.join_cons, render]

theorem render_flatMap {α : Type} (f : α → Layout) (xs : List α) :
    render (xs.flatMap f) = String.join (xs.map fun x => (f x).render) := by
  induction xs with
  | nil => rfl
  | cons x xs ih => rw [List.flatMap_cons, render_append, ih, List.map_cons, String.join_cons]

theorem render_text (s : String) : (text s).render = s := by
  simp [render, text, Chunk.render, String.join_cons]

end Layout

/-! ### One member of a list -/

def Declarator.layout (depth : Nat) (d : Declarator) : Layout :=
  match d.init with
  | none => text d.name
  | some e => text (d.name ++ " = ") ++ e.layout depth

def Resource.layout (depth : Nat) (r : Resource) : Layout :=
  match r.declares with
  | none => r.value.layout depth
  | some (type, n) => text (type ++ " " ++ n ++ " = ") ++ r.value.layout depth

def CatchClause.layout (depth : Nat) (c : CatchClause) : Layout :=
  text " catch (" ++ c.param.layout ++ text ") " ++ braced depth (stmtLines (depth + 1) c.body)

/-- The lines of one group of a switch. -/
def Case.lines (depth : Nat) (c : Case) : Layout := caseLines depth [c]

/-- A statement on lines of its own. -/
def Stmt.lines (depth : Nat) : Stmt → Layout
  | .localClass decl => decl.layout depth
  | s => line depth (s.inline depth)

/-- A statement in the first part of a for loop. -/
def Stmt.forInit (depth : Nat) : Stmt → Layout
  | .locals modifiers type declarators =>
    modifiers.layout ++ text (type ++ " ") ++ separated ", " (declaratorLayouts depth declarators)
  | .eval value => value.layout depth
  | s => s.inline depth

/-! ### Lists as maps -/

theorem exprLayouts_eq_map (depth : Nat) (es : List Expr) :
    exprLayouts depth es = es.map (Expr.layout depth) := by
  induction es with
  | nil => rfl
  | cons e es ih => rw [exprLayouts, ih, List.map_cons]

theorem memberLayouts_eq_map (depth : Nat) (ds : List Member) :
    memberLayouts depth ds = ds.map (Member.layout depth) := by
  induction ds with
  | nil => rfl
  | cons d ds ih => rw [memberLayouts, ih, List.map_cons]

theorem dimensionsLayout_eq_flatMap (depth : Nat) (es : List Expr) :
    dimensionsLayout depth es = es.flatMap fun e => text "[" ++ e.layout depth ++ text "]" := by
  induction es with
  | nil => rfl
  | cons e es ih => rw [dimensionsLayout, ih, List.flatMap_cons]

theorem declaratorLayouts_eq_map (depth : Nat) (ds : List Declarator) :
    declaratorLayouts depth ds = ds.map (Declarator.layout depth) := by
  induction ds with
  | nil => rfl
  | cons d ds ih =>
    obtain ⟨n, _ | init, signature, span⟩ := d
    · rw [declaratorLayouts, ih, List.map_cons, Declarator.layout]
    · rw [declaratorLayouts, ih, List.map_cons, Declarator.layout]

theorem resourceLayouts_eq_map (depth : Nat) (rs : List Resource) :
    resourceLayouts depth rs = rs.map (Resource.layout depth) := by
  induction rs with
  | nil => rfl
  | cons r rs ih =>
    obtain ⟨_ | ⟨type, n⟩, value⟩ := r
    · rw [resourceLayouts, ih, List.map_cons, Resource.layout]
    · rw [resourceLayouts, ih, List.map_cons, Resource.layout]

theorem catchesLayout_eq_flatMap (depth : Nat) (cs : List CatchClause) :
    catchesLayout depth cs = cs.flatMap (CatchClause.layout depth) := by
  induction cs with
  | nil => rfl
  | cons c cs ih =>
    obtain ⟨param, statements⟩ := c
    rw [catchesLayout, ih, List.flatMap_cons, CatchClause.layout]

theorem caseLines_eq_flatMap (depth : Nat) (cs : List Case) :
    caseLines depth cs = cs.flatMap (Case.lines depth) := by
  induction cs with
  | nil => rfl
  | cons c cs ih =>
    obtain ⟨labels, _ | _, _ | ⟨s, rest⟩⟩ := c <;>
      simp [caseLines, Case.lines, ih]

theorem stmtLines_eq_flatMap (depth : Nat) (ss : List Stmt) :
    stmtLines depth ss = ss.flatMap (Stmt.lines depth) := by
  induction ss with
  | nil => rfl
  | cons s ss ih => cases s <;> simp [stmtLines, Stmt.lines, ih]

theorem forInitLayouts_eq_map (depth : Nat) (ss : List Stmt) :
    forInitLayouts depth ss = ss.map (Stmt.forInit depth) := by
  induction ss with
  | nil => rfl
  | cons s ss ih => cases s <;> simp [forInitLayouts, Stmt.forInit, ih]

end Receiverless
