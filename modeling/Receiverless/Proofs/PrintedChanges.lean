/-
  Receiverless/Proofs/PrintedChanges.lean
  =======================================
  **The printed difference is the report.**  Printed before and after a run, a
  unit gives two texts.  They consist of the same pieces, and between these stand
  the modifier lists of the methods that the report names, before the change in
  one text and after it in the other, in the order of the report
  (`CompilationUnit.run_prints_changes`).

    * `Text.Woven` relates two such texts.  It is kept by concatenation, so
      layouts can be compared piece by piece.
    * A layout prints the direct parts of a construct in the order of the
      outline, between texts of its own that restyling does not touch.  The
      lemmas `Expr.printed`, `Stmt.printed` and `Member.printed` say so, form by
      form, and `Part.printed` is the induction over parts.

  Only the first statement of an arrow group is printed.  A method in another one
  is reported but not shown, so arrow groups are held to one statement.
-/
import Receiverless.Proofs.PassRun
import Receiverless.Proofs.Layouts
import Receiverless.Draft.Shorthand

namespace Receiverless

open Layout (text separated line braced body)

/-! ### Texts that differ by changes -/

namespace Text

/-- The texts are made of the same pieces, and of the two sides of the changes between them. -/
inductive Woven : List Change → String → String → Prop where
  | same (t : String) : Woven [] t t
  | change (t : String) (c : Change) {cs : List Change} {a b : String} (rest : Woven cs a b) :
      Woven (c :: cs) (t ++ (c.before ++ a)) (t ++ (c.after ++ b))

/-- A text with one side of each change filled in: the first piece, then each change and the piece
    behind it. -/
def fill (side : Change → String) (start : String) (cs : List Change) (pieces : List String) :
    String :=
  start ++ String.join (List.zipWith (fun c piece => side c ++ piece) cs pieces)

namespace Woven

variable {cs ds : List Change} {a b a' b' : String}

theorem prepend (t : String) (h : Woven cs a b) : Woven cs (t ++ a) (t ++ b) := by
  cases h with
  | same => exact .same (t ++ a)
  | change t' c rest =>
    have hjoined := Woven.change (t ++ t') c rest
    rwa [String.append_assoc, String.append_assoc] at hjoined

theorem append (h : Woven cs a b) (h' : Woven ds a' b') : Woven (cs ++ ds) (a ++ a') (b ++ b') := by
  induction h with
  | same t => exact h'.prepend t
  | change t c rest ih =>
    simp only [String.append_assoc]
    exact .change t c ih

theorem exists_pieces (h : Woven cs a b) :
    ∃ start pieces, pieces.length = cs.length ∧ a = fill Change.before start cs pieces ∧
      b = fill Change.after start cs pieces := by
  induction h with
  | same t => exact ⟨t, [], rfl, String.append_empty.symm, String.append_empty.symm⟩
  | change t c rest ih =>
    obtain ⟨start, pieces, hlength, hbefore, hafter⟩ := ih
    refine ⟨t, start :: pieces, congrArg (· + 1) hlength, ?_, ?_⟩
    · simp only [hbefore, fill, List.zipWith_cons_cons, String.join_cons, String.append_assoc]
    · simp only [hafter, fill, List.zipWith_cons_cons, String.join_cons, String.append_assoc]

end Woven

end Text

namespace Layout

/-- The layouts print as texts that differ by the changes. -/
def Woven (cs : List Change) (l m : Layout) : Prop := Text.Woven cs l.render m.render

namespace Woven

variable {cs ds : List Change} {l m l' m' : Layout}

theorem same (l : Layout) : Woven [] l l := Text.Woven.same _

theorem append (h : Woven cs l m) (h' : Woven ds l' m') : Woven (cs ++ ds) (l ++ l') (m ++ m') := by
  unfold Woven
  rw [render_append, render_append]
  exact Text.Woven.append h h'

theorem behind (k : Layout) (h : Woven cs l m) : Woven cs (k ++ l) (k ++ m) :=
  (same k).append h

theorem before (h : Woven cs l m) (k : Layout) : Woven cs (l ++ k) (m ++ k) := by
  have hboth := h.append (same k)
  rwa [List.append_nil] at hboth

theorem line (h : Woven cs l m) (depth : Nat) : Woven cs (line depth l) (line depth m) :=
  (h.behind [.margin depth]).before [.newline]

theorem braced (h : Woven cs l m) (depth : Nat) : Woven cs (braced depth l) (braced depth m) :=
  (h.behind [.text "\x7b", .newline]).before [.margin depth, .text "\x7d"]

section Lists

variable {α : Type} {cs : α → List Change} {f g : α → Layout} {xs : List α}

theorem flatMap (h : ∀ x ∈ xs, Woven (cs x) (f x) (g x)) :
    Woven (xs.flatMap cs) (xs.flatMap f) (xs.flatMap g) := by
  induction xs with
  | nil => exact same []
  | cons x xs ih =>
    obtain ⟨hx, hxs⟩ := List.forall_mem_cons.mp h
    exact hx.append (ih hxs)

theorem separated (separator : String) (h : ∀ x ∈ xs, Woven (cs x) (f x) (g x)) :
    Woven (xs.flatMap cs) (separated separator (xs.map f)) (separated separator (xs.map g)) := by
  induction xs with
  | nil => exact same []
  | cons x xs ih =>
    obtain ⟨hx, hxs⟩ := List.forall_mem_cons.mp h
    cases xs with
    | nil =>
      rw [List.flatMap_singleton]
      exact hx
    | cons y ys => exact (hx.before (text separator)).append (ih hxs)

theorem spacedMembers (h : ∀ x ∈ xs, Woven (cs x) (f x) (g x)) :
    Woven (xs.flatMap cs) (spacedMembers (xs.map f)) (spacedMembers (xs.map g)) := by
  induction xs with
  | nil => exact same []
  | cons x xs ih =>
    obtain ⟨hx, hxs⟩ := List.forall_mem_cons.mp h
    cases xs with
    | nil =>
      rw [List.flatMap_singleton]
      exact hx
    | cons y ys => exact hx.append ((ih hxs).behind [.newline])

end Lists

end Woven

end Layout

/-! ### What a part prints -/

namespace Part

variable (a : Analysis) (s : Settings)

/-- The entries of the report for the methods of a part. -/
def changes (p : Part) : List Change := p.methods.filterMap (a.change? s)

theorem changes_eq (p : Part) :
    p.changes a s =
      (p.method?.bind (a.change? s)).toList ++ p.children.flatMap (changes a s) := by
  rw [changes, methods_eq, List.filterMap_append, List.filterMap_flatMap]
  congr 1
  cases hmethod : p.method? with
  | none => rfl
  | some d => cases hchange : a.change? s d <;> simp [hchange]

/-- Restyling by the pass changes the layouts of the part by the entries for its methods. -/
def Printed : Part → Prop
  | .expr e => ∀ depth, Layout.Woven ((Part.expr e).changes a s) (e.layout depth)
      ((e.restyle (a.style s)).layout depth)
  | .stmt t => ∀ depth,
      Layout.Woven ((Part.stmt t).changes a s) (t.inline depth)
        ((t.restyle (a.style s)).inline depth) ∧
      Layout.Woven ((Part.stmt t).changes a s) (t.lines depth)
        ((t.restyle (a.style s)).lines depth) ∧
      Layout.Woven ((Part.stmt t).changes a s) (t.forInit depth)
        ((t.restyle (a.style s)).forInit depth)
  | .anonymous b => ∀ depth, Layout.Woven ((Part.anonymous b).changes a s)
      (spacedMembers (memberLayouts depth b.members))
      (spacedMembers (memberLayouts depth (b.restyle (a.style s)).members))
  | .member d => ∀ depth, Layout.Woven ((Part.member d).changes a s) (d.layout depth)
      ((d.restyle (a.style s)).layout depth)

end Part

/-- All statements of the group are printed: an arrow group prints its first one only. -/
def Case.PrintsAll (c : Case) : Prop := c.arrow = true → c.body.length ≤ 1

/-- The groups of the switch that a part is. -/
def Part.cases : Part → List Case
  | .expr (.switch _ cases) | .stmt (.switch _ cases) => cases
  | _ => []

/-! ### Lists of parts -/

section Lists

variable {a : Analysis} {s : Settings}

theorem woven_exprs {es : List Expr} (h : ∀ q ∈ es.map Part.expr, q.Printed a s)
    (separator : String) (depth : Nat) :
    Layout.Woven ((es.map Part.expr).flatMap (Part.changes a s))
      (separated separator (exprLayouts depth es))
      (separated separator (exprLayouts depth (es.map (Expr.restyle (a.style s))))) := by
  rw [exprLayouts_eq_map, exprLayouts_eq_map, List.map_map, List.flatMap_map]
  exact Layout.Woven.separated separator fun e he => h _ (List.mem_map_of_mem he) depth

theorem woven_dimensions {es : List Expr} (h : ∀ q ∈ es.map Part.expr, q.Printed a s)
    (depth : Nat) :
    Layout.Woven ((es.map Part.expr).flatMap (Part.changes a s)) (dimensionsLayout depth es)
      (dimensionsLayout depth (es.map (Expr.restyle (a.style s)))) := by
  rw [dimensionsLayout_eq_flatMap, dimensionsLayout_eq_flatMap, List.flatMap_map, List.flatMap_map]
  refine Layout.Woven.flatMap fun e he => ?_
  exact ((h _ (List.mem_map_of_mem he) depth).behind _).before _

theorem woven_stmts {ss : List Stmt} (h : ∀ q ∈ ss.map Part.stmt, q.Printed a s) (depth : Nat) :
    Layout.Woven ((ss.map Part.stmt).flatMap (Part.changes a s)) (stmtLines depth ss)
      (stmtLines depth (ss.map (Stmt.restyle (a.style s)))) := by
  rw [stmtLines_eq_flatMap, stmtLines_eq_flatMap, List.flatMap_map, List.flatMap_map]
  exact Layout.Woven.flatMap fun t ht => (h _ (List.mem_map_of_mem ht) depth).2.1

theorem woven_block {ss : List Stmt} (h : ∀ q ∈ ss.map Part.stmt, q.Printed a s) (depth : Nat) :
    Layout.Woven ((ss.map Part.stmt).flatMap (Part.changes a s))
      (braced depth (stmtLines (depth + 1) ss))
      (braced depth (stmtLines (depth + 1) (ss.map (Stmt.restyle (a.style s))))) :=
  (woven_stmts h (depth + 1)).braced depth

theorem woven_forInit {ss : List Stmt} (h : ∀ q ∈ ss.map Part.stmt, q.Printed a s)
    (depth : Nat) :
    Layout.Woven ((ss.map Part.stmt).flatMap (Part.changes a s))
      (separated ", " (forInitLayouts depth ss))
      (separated ", " (forInitLayouts depth (ss.map (Stmt.restyle (a.style s))))) := by
  rw [forInitLayouts_eq_map, forInitLayouts_eq_map, List.map_map, List.flatMap_map]
  exact Layout.Woven.separated ", " fun t ht => (h _ (List.mem_map_of_mem ht) depth).2.2

theorem woven_members {ds : List Member} (h : ∀ q ∈ ds.map Part.member, q.Printed a s)
    (depth : Nat) :
    Layout.Woven ((ds.map Part.member).flatMap (Part.changes a s))
      (spacedMembers (memberLayouts depth ds))
      (spacedMembers (memberLayouts depth (ds.map (Member.restyle (a.style s))))) := by
  rw [memberLayouts_eq_map, memberLayouts_eq_map, List.map_map, List.flatMap_map]
  exact Layout.Woven.spacedMembers fun d hd => h _ (List.mem_map_of_mem hd) depth

theorem woven_declarators {ds : List Declarator} (h : ∀ q ∈ initParts ds, q.Printed a s)
    (depth : Nat) :
    Layout.Woven ((initParts ds).flatMap (Part.changes a s))
      (separated ", " (declaratorLayouts depth ds))
      (separated ", "
        (declaratorLayouts depth (ds.map (Declarator.restyle (a.style s))))) := by
  rw [declaratorLayouts_eq_map, declaratorLayouts_eq_map, List.map_map, initParts,
    List.flatMap_assoc]
  refine Layout.Woven.separated ", " fun d hd => ?_
  have hinit : ∀ q ∈ d.init.toList.map Part.expr, q.Printed a s :=
    fun q hq => h q (List.mem_flatMap.mpr ⟨d, hd, hq⟩)
  obtain ⟨n, _ | init, signature, span⟩ := d
  · exact .same _
  · have he := hinit (.expr init) List.mem_cons_self depth
    rw [Option.toList_some, List.map_singleton, List.flatMap_singleton]
    exact he.behind _

theorem woven_resources {rs : List Resource}
    (h : ∀ q ∈ rs.map (fun r => Part.expr r.value), q.Printed a s) (depth : Nat) :
    Layout.Woven ((rs.map fun r => Part.expr r.value).flatMap (Part.changes a s))
      (separated "; " (resourceLayouts depth rs))
      (separated "; " (resourceLayouts depth (rs.map (Resource.restyle (a.style s))))) := by
  rw [resourceLayouts_eq_map, resourceLayouts_eq_map, List.map_map, List.flatMap_map]
  refine Layout.Woven.separated "; " fun r hr => ?_
  have hvalue := h _ (List.mem_map_of_mem hr) depth
  obtain ⟨_ | ⟨type, n⟩, value⟩ := r
  · exact hvalue
  · exact hvalue.behind _

/-- The resources of a try statement in their parentheses. -/
theorem woven_resourceHead {rs : List Resource}
    (h : ∀ q ∈ rs.map (fun r => Part.expr r.value), q.Printed a s) (depth : Nat) :
    Layout.Woven ((rs.map fun r => Part.expr r.value).flatMap (Part.changes a s))
      (if rs.isEmpty then []
        else text "(" ++ separated "; " (resourceLayouts depth rs) ++ text ") ")
      (if (rs.map (Resource.restyle (a.style s))).isEmpty then []
        else text "(" ++ separated "; "
          (resourceLayouts depth (rs.map (Resource.restyle (a.style s)))) ++ text ") ") := by
  cases rs with
  | nil => exact .same _
  | cons r rest => exact ((woven_resources h depth).behind _).before _

theorem woven_catches {cs : List CatchClause}
    (h : ∀ q ∈ cs.flatMap (fun c => c.body.map Part.stmt), q.Printed a s) (depth : Nat) :
    Layout.Woven ((cs.flatMap fun c => c.body.map Part.stmt).flatMap (Part.changes a s))
      (catchesLayout depth cs)
      (catchesLayout depth (cs.map (CatchClause.restyle (a.style s)))) := by
  rw [catchesLayout_eq_flatMap, catchesLayout_eq_flatMap, List.flatMap_map, List.flatMap_assoc]
  refine Layout.Woven.flatMap fun c hc => ?_
  have hbody : ∀ q ∈ c.body.map Part.stmt, q.Printed a s :=
    fun q hq => h q (List.mem_flatMap.mpr ⟨c, hc, hq⟩)
  exact (woven_block hbody depth).behind _

theorem woven_caseHead {es : List Expr} (h : ∀ q ∈ es.map Part.expr, q.Printed a s)
    (depth : Nat) :
    Layout.Woven ((es.map Part.expr).flatMap (Part.changes a s))
      (caseHead (exprLayouts depth es))
      (caseHead (exprLayouts depth (es.map (Expr.restyle (a.style s))))) := by
  cases es with
  | nil => exact .same _
  | cons e es => exact (woven_exprs h ", " depth).behind (text "case ")

theorem woven_case {c : Case} (h : ∀ q ∈ c.parts, q.Printed a s) (harrow : c.PrintsAll)
    (depth : Nat) :
    Layout.Woven (c.parts.flatMap (Part.changes a s)) (c.lines depth)
      ((c.restyle (a.style s)).lines depth) := by
  obtain ⟨labels, arrow, statements⟩ := c
  obtain ⟨hlabels, hbody⟩ := List.forall_mem_append.mp h
  have hhead := woven_caseHead hlabels depth
  simp only [Case.parts, Case.restyle, Case.lines, List.flatMap_append]
  cases arrow with
  | false =>
    simp only [caseLines, List.append_nil]
    exact ((hhead.before _).line depth).append (woven_stmts hbody (depth + 1))
  | true =>
    cases statements with
    | nil =>
      simp only [List.map_nil, List.flatMap_nil, List.append_nil, caseLines]
      exact (hhead.before _).line depth
    | cons t rest =>
      obtain rfl : rest = [] := by simpa using harrow rfl
      have ht := hbody (.stmt t) List.mem_cons_self depth
      simp only [List.map_cons, List.map_nil, List.flatMap_singleton, List.append_nil, caseLines]
      exact ((hhead.before _).append ht.1).line depth

theorem woven_cases {cs : List Case} (h : ∀ q ∈ cs.flatMap Case.parts, q.Printed a s)
    (harrow : ∀ c ∈ cs, c.PrintsAll) (depth : Nat) :
    Layout.Woven ((cs.flatMap Case.parts).flatMap (Part.changes a s)) (caseLines depth cs)
      (caseLines depth (cs.map (Case.restyle (a.style s)))) := by
  rw [caseLines_eq_flatMap, caseLines_eq_flatMap, List.flatMap_map, List.flatMap_assoc]
  refine Layout.Woven.flatMap fun c hc => ?_
  exact woven_case (fun q hq => h q (List.mem_flatMap.mpr ⟨c, hc, hq⟩)) (harrow c hc) depth

/-- A switch, as an expression or as a statement. -/
theorem woven_switch {selector : Expr} {cs : List Case}
    (h : ∀ q ∈ Part.expr selector :: cs.flatMap Case.parts, q.Printed a s)
    (harrow : ∀ c ∈ cs, c.PrintsAll) (depth : Nat) :
    Layout.Woven ((Part.expr selector :: cs.flatMap Case.parts).flatMap (Part.changes a s))
      (text "switch (" ++ selector.layout depth ++ text ") " ++
        braced depth (caseLines (depth + 1) cs))
      (text "switch (" ++ (selector.restyle (a.style s)).layout depth ++ text ") " ++
        braced depth (caseLines (depth + 1) (cs.map (Case.restyle (a.style s))))) := by
  obtain ⟨hselector, hcases⟩ := List.forall_mem_cons.mp h
  have hlines := (woven_cases hcases harrow (depth + 1)).braced depth
  exact (((hselector depth).behind _).before _).append hlines

end Lists

/-! ### Forms of constructs -/

section Forms

variable {a : Analysis} {s : Settings}

theorem Part.changes_expr (e : Expr) :
    (Part.expr e).changes a s = e.parts.flatMap (Part.changes a s) := Part.changes_eq a s _

theorem Part.changes_stmt (t : Stmt) :
    (Part.stmt t).changes a s = t.parts.flatMap (Part.changes a s) := Part.changes_eq a s _

namespace Layout.Woven

theorem single {p : Part} {l m : Layout} (h : Layout.Woven (p.changes a s) l m) :
    Layout.Woven ([p].flatMap (Part.changes a s)) l m := by
  rwa [List.flatMap_singleton]

theorem assoc {cs ds es : List Change} {l m : Layout} (h : Layout.Woven (cs ++ ds ++ es) l m) :
    Layout.Woven (cs ++ (ds ++ es)) l m := by
  rwa [List.append_assoc] at h

end Layout.Woven

theorem Expr.printed (e : Expr) (h : ∀ q ∈ e.parts, q.Printed a s)
    (harrow : ∀ c ∈ (Part.expr e).cases, c.PrintsAll) :
    (Part.expr e).Printed a s := by
  intro depth
  rw [Part.changes_expr, Expr.restyle_eq]
  cases e with
  | literal v => exact .same _
  | name n => exact .same _
  | self qualifier span => exact .same _
  | super => exact .same _
  | access target n span =>
    have htarget := h (.expr target) (by simp [Expr.parts]) depth
    exact htarget.single.before _
  | call receiver n args t span =>
    obtain ⟨hreceiver, hargs⟩ := List.forall_mem_append.mp h
    have hlist := woven_exprs hargs ", " depth
    cases receiver with
    | none => exact (hlist.behind _).before _
    | some r =>
      have hr := hreceiver (.expr r) List.mem_cons_self depth
      exact ((hr.before _).append hlist).before _
  | methodRef target n span =>
    have htarget := h (.expr target) (by simp [Expr.parts]) depth
    exact htarget.single.before _
  | unary op operand =>
    have hoperand := h (.expr operand) (by simp [Expr.parts]) depth
    exact (hoperand.single.behind _).before _
  | binary op left right =>
    have hleft := h (.expr left) (by simp [Expr.parts]) depth
    have hright := h (.expr right) (by simp [Expr.parts]) depth
    exact (hleft.before _).append hright.single
  | assign op target value =>
    have htarget := h (.expr target) (by simp [Expr.parts]) depth
    have hvalue := h (.expr value) (by simp [Expr.parts]) depth
    exact (htarget.before _).append hvalue.single
  | conditional condition yes no =>
    have hcondition := h (.expr condition) (by simp [Expr.parts]) depth
    have hyes := h (.expr yes) (by simp [Expr.parts]) depth
    have hno := h (.expr no) (by simp [Expr.parts]) depth
    exact ((((hcondition.before _).append hyes).before _).append hno.single).assoc
  | create type args members span =>
    obtain ⟨hargs, hmembers⟩ := List.forall_mem_append.mp h
    have hlist := (woven_exprs hargs ", " depth).behind (text ("new " ++ type ++ "("))
    rw [Expr.parts, List.flatMap_append]
    cases members with
    | none => exact hlist.append (.same _)
    | some b =>
      have hb := hmembers (.anonymous b) List.mem_cons_self (depth + 1)
      cases b
      exact (hlist.before _).append (hb.single.braced depth)
  | index array position =>
    have harray := h (.expr array) (by simp [Expr.parts]) depth
    have hposition := h (.expr position) (by simp [Expr.parts]) depth
    exact ((harray.before _).append hposition.single).before _
  | newArray element dimensions extra elements =>
    obtain ⟨hdimensions, helements⟩ := List.forall_mem_append.mp h
    have hsizes := (woven_dimensions hdimensions depth).behind (text ("new " ++ element))
    rw [Expr.parts, List.flatMap_append]
    cases elements with
    | none => exact hsizes.append (.same _)
    | some es => exact ((hsizes.before _).append (woven_exprs helements ", " depth)).before _
  | arrayInit elements => exact ((woven_exprs h ", " depth).behind _).before _
  | cast type operand =>
    have hoperand := h (.expr operand) (by simp [Expr.parts]) depth
    exact hoperand.single.behind _
  | instanceOf operand type binding =>
    have hoperand := h (.expr operand) (by simp [Expr.parts]) depth
    cases binding with
    | none => exact hoperand.single.before _
    | some b => exact hoperand.single.before _
  | switch selector cases => exact woven_switch h harrow depth
  | lambda params value span =>
    cases value with
    | expr e =>
      have he := h (.expr e) List.mem_cons_self depth
      exact he.single.behind _
    | block statements => exact (woven_block h depth).behind _
  | paren inner =>
    have hinner := h (.expr inner) (by simp [Expr.parts]) depth
    exact (hinner.single.behind _).before _

theorem Stmt.isBlock_restyle (style : Style) (t : Stmt) :
    (t.restyle style).isBlock = t.isBlock := by
  rw [Stmt.restyle_eq]
  cases t <;> rfl

theorem Stmt.isConditional_restyle (style : Style) (t : Stmt) :
    (t.restyle style).isConditional = t.isConditional := by
  rw [Stmt.restyle_eq]
  cases t <;> rfl

/-- The body of a control statement, in braces or not. -/
theorem woven_body {t : Stmt} (h : (Part.stmt t).Printed a s) (inBraces : Bool) (depth : Nat) :
    Layout.Woven ((Part.stmt t).changes a s) (body inBraces (fun d => t.inline d) depth)
      (body inBraces (fun d => (t.restyle (a.style s)).inline d) depth) := by
  cases inBraces with
  | true => exact (h depth).1
  | false => exact (h (depth + 1)).1.behind [.newline, .margin (depth + 1)]

/-- A class body behind the head of the class, which restyling keeps. -/
theorem woven_classBody {c : ClassDecl} (h : ∀ q ∈ c.members.map Part.member, q.Printed a s)
    (depth : Nat) (modifiers : Layout) :
    Layout.Woven ((c.members.map Part.member).flatMap (Part.changes a s))
      (modifiers ++ text c.head ++
        braced depth (spacedMembers (memberLayouts (depth + 1) c.members)))
      (modifiers ++ text c.head ++
        braced depth (spacedMembers
          (memberLayouts (depth + 1) (c.members.map (Member.restyle (a.style s)))))) :=
  ((woven_members h (depth + 1)).braced depth).behind _

theorem ClassDecl.woven_layout {c : ClassDecl} (h : ∀ q ∈ c.members.map Part.member, q.Printed a s)
    (depth : Nat) :
    Layout.Woven ((c.members.map Part.member).flatMap (Part.changes a s)) (c.layout depth)
      ((c.restyle (a.style s)).layout depth) := by
  rw [ClassDecl.restyle_eq]
  have hbody := woven_classBody h depth c.modifiers.layout
  cases c
  exact hbody.line depth

theorem ClassDecl.woven_inline {c : ClassDecl} (h : ∀ q ∈ c.members.map Part.member, q.Printed a s)
    (depth : Nat) :
    Layout.Woven ((c.members.map Part.member).flatMap (Part.changes a s)) (c.inline depth)
      ((c.restyle (a.style s)).inline depth) := by
  rw [ClassDecl.restyle_eq]
  have hbody := woven_classBody h depth c.modifiers.layoutTrimmed
  cases c
  exact hbody

theorem Stmt.woven_inline (t : Stmt) (h : ∀ q ∈ t.parts, q.Printed a s)
    (harrow : ∀ c ∈ (Part.stmt t).cases, c.PrintsAll) (depth : Nat) :
    Layout.Woven ((Part.stmt t).changes a s) (t.inline depth)
      ((t.restyle (a.style s)).inline depth) := by
  rw [Part.changes_stmt, Stmt.restyle_eq]
  cases t with
  | leave label => exact .same _
  | next label => exact .same _
  | empty => exact .same _
  | block statements => exact woven_block h depth
  | locals modifiers type declarators =>
    exact ((woven_declarators h depth).behind _).before _
  | eval value =>
    have hvalue := h (.expr value) List.mem_cons_self depth
    exact hvalue.single.before _
  | ret value =>
    cases value with
    | none => exact .same _
    | some e =>
      have he := h (.expr e) List.mem_cons_self depth
      exact (he.single.behind _).before _
  | raise value =>
    have hvalue := h (.expr value) List.mem_cons_self depth
    exact (hvalue.single.behind _).before _
  | «yield» value =>
    have hvalue := h (.expr value) List.mem_cons_self depth
    exact (hvalue.single.behind _).before _
  | ifElse condition yes no =>
    obtain ⟨hcondition, hbranches⟩ := List.forall_mem_cons.mp h
    obtain ⟨hyes, hno⟩ := List.forall_mem_cons.mp hbranches
    have htest := ((hcondition depth).behind (text "if (")).before (text ") ")
    have hfirst := woven_body hyes yes.isBlock depth
    cases no with
    | none =>
      simp only [Option.map_none, Stmt.inline, Stmt.isBlock_restyle]
      exact htest.append hfirst.single
    | some t =>
      have hsecond := woven_body (hno (.stmt t) List.mem_cons_self) (t.isBlock || t.isConditional)
        depth
      simp only [Option.map_some, Stmt.inline, Stmt.isBlock_restyle, Stmt.isConditional_restyle]
      exact ((((htest.append hfirst).before _).before _).append hsecond.single).assoc
  | whileLoop condition inner =>
    have hcondition := h (.expr condition) (by simp [Stmt.parts]) depth
    have hinner := woven_body (h (.stmt inner) (by simp [Stmt.parts])) inner.isBlock depth
    simp only [Stmt.inline, Stmt.isBlock_restyle]
    exact ((hcondition.behind _).before _).append hinner.single
  | doLoop inner condition =>
    have hinner := woven_body (h (.stmt inner) (by simp [Stmt.parts])) inner.isBlock depth
    have hcondition := h (.expr condition) (by simp [Stmt.parts]) depth
    simp only [Stmt.inline, Stmt.isBlock_restyle]
    exact ((((hinner.behind _).before _).before _).append hcondition.single).before _
  | forEach param iterable inner =>
    have hiterable := h (.expr iterable) (by simp [Stmt.parts]) depth
    have hinner := woven_body (h (.stmt inner) (by simp [Stmt.parts])) inner.isBlock depth
    simp only [Stmt.inline, Stmt.isBlock_restyle]
    exact ((hiterable.behind _).before _).append hinner.single
  | locked lock statements =>
    obtain ⟨hlock, hstatements⟩ := List.forall_mem_cons.mp h
    exact (((hlock depth).behind _).before _).append (woven_block hstatements depth)
  | «switch» selector cases => exact woven_switch h harrow depth
  | labelled label inner =>
    have hinner := h (.stmt inner) List.mem_cons_self depth
    exact hinner.1.single.behind _
  | check condition message =>
    obtain ⟨hcondition, hmessage⟩ := List.forall_mem_cons.mp h
    cases message with
    | none => exact ((hcondition depth).single.behind _).before _
    | some e =>
      have he := hmessage (.expr e) List.mem_cons_self depth
      exact ((((hcondition depth).behind _).before _).append he.single).before _
  | localClass decl => exact ClassDecl.woven_inline h depth
  | forLoop init condition update inner =>
    simp only [Stmt.parts, List.forall_mem_append, List.flatMap_append] at h ⊢
    obtain ⟨⟨⟨hinit, hcondition⟩, hupdate⟩, hbody⟩ := h
    have hinner := woven_body (hbody (.stmt inner) List.mem_cons_self) inner.isBlock depth
    have hstart := ((woven_forInit hinit depth).behind (text "for (")).before (text ";")
    have hsteps := woven_exprs hupdate ", " depth
    -- The layout is not a plain concatenation before it is known whether there is a condition.
    cases condition with
    | none =>
      simp only [Option.map_none, Stmt.inline, Stmt.isBlock_restyle, List.isEmpty_map]
      exact ((((hstart.append (.same [])).before _).append hsteps).before _).append hinner.single
    | some e =>
      have he := (hcondition (.expr e) List.mem_cons_self depth).single.behind (text " ")
      simp only [Option.map_some, Stmt.inline, Stmt.isBlock_restyle, List.isEmpty_map]
      exact ((((hstart.append he).before _).append hsteps).before _).append hinner.single
  | tryCatch resources statements catches final =>
    simp only [Stmt.parts, List.forall_mem_append, List.flatMap_append] at h ⊢
    obtain ⟨⟨⟨hresources, hstatements⟩, hcatches⟩, hfinal⟩ := h
    have hblock := woven_block hstatements depth
    have hhandlers := woven_catches hcatches depth
    have hhead := (woven_resourceHead hresources depth).behind (text "try ")
    cases final with
    | none =>
      simp only [Option.map_none, Stmt.inline]
      exact ((hhead.append hblock).append hhandlers).append (.same [])
    | some rest =>
      have hrest := (woven_block hfinal depth).behind (text " finally ")
      simp only [Option.map_some, Stmt.inline]
      exact ((hhead.append hblock).append hhandlers).append hrest

theorem Stmt.printed (t : Stmt) (h : ∀ q ∈ t.parts, q.Printed a s)
    (harrow : ∀ c ∈ (Part.stmt t).cases, c.PrintsAll) :
    (Part.stmt t).Printed a s := by
  intro depth
  have hinline := t.woven_inline h harrow depth
  have hline := hinline.line depth
  rw [Part.changes_stmt, Stmt.restyle_eq] at hinline hline ⊢
  refine ⟨hinline, ?_, ?_⟩
  · -- A local class on a line of its own keeps the blanks in front of its modifiers.
    cases t with
    | localClass decl => exact ClassDecl.woven_layout h depth
    | _ => exact hline
  · -- In the head of a for loop, declarations and expressions come without their semicolon.
    cases t with
    | locals modifiers type declarators => exact (woven_declarators h depth).behind _
    | eval value => exact (h (.expr value) List.mem_cons_self depth).single
    | _ => exact hinline

theorem Modifiers.render_layout {ms : Modifiers} {k : Keyword} (h : ms.has k = true) :
    ms.layout.render = ms.render ++ " " := by
  cases ms with
  | nil => cases h
  | cons m ms => exact Layout.render_text _

/-- Where the pass changes modifiers, there are some to be printed, before the change and after it:
    methods without any are not eligible. -/
theorem woven_modifiers (hs : s.dryRun = false) (d : Method) :
    Layout.Woven (a.change? s d).toList d.modifiers.layout
      (a.style s d d.modifiers).layout := by
  cases helig : a.isEligible d with
  | false =>
    simp only [Analysis.change?, Analysis.style, helig, Bool.false_eq_true, if_false,
      Bool.false_and, Option.toList_none]
    exact .same _
  | true =>
    obtain ⟨σ, hσ, -, -, hfixed, -⟩ := Method.isEligible_iff.mp helig
    have hchange : a.change? s d = some (d.change s.order σ) := by
      rw [Analysis.change?, if_pos helig, hσ, Option.map_some]
    have hstyle : a.style s d d.modifiers = d.modifiers.addStatic s.order := by
      simp [Analysis.style, helig, hs]
    have hbefore : d.modifiers.layout.render = d.modifiers.render ++ " " := by
      rcases (Bool.or_eq_true _ _).mp hfixed with hprivate | hfinal
      · exact Modifiers.render_layout hprivate
      · exact Modifiers.render_layout hfinal
    have hafter := Modifiers.render_layout (d.modifiers.has_static_addStatic s.order)
    have hwoven := Text.Woven.change "" (d.change s.order σ) (.same " ")
    rw [hchange, hstyle]
    unfold Layout.Woven
    rw [hbefore, hafter]
    rw [String.empty_append, String.empty_append] at hwoven
    exact hwoven

theorem Method.woven_layout (hs : s.dryRun = false) {d : Method}
    (h : ∀ q ∈ (Member.method d).parts, q.Printed a s) (depth : Nat) :
    Layout.Woven ((a.change? s d).toList ++ (Member.method d).parts.flatMap (Part.changes a s))
      (d.layout depth) ((d.restyle (a.style s)).layout depth) := by
  have hmodifiers := woven_modifiers (a := a) hs d
  rw [Method.restyle_eq]
  obtain ⟨modifiers, typeParams, result, n, params, throws, _ | statements, signature, span⟩ := d
  · exact ((hmodifiers.before _).append (.same _)).line depth
  · exact (((hmodifiers.before _).before _).append (woven_block h depth)).line depth

theorem Member.printed (hs : s.dryRun = false) (d : Member)
    (h : ∀ q ∈ d.parts, q.Printed a s) : (Part.member d).Printed a s := by
  intro depth
  rw [Part.changes_eq]
  cases d with
  | field decl =>
    rw [Member.restyle_field]
    cases decl
    exact (((woven_declarators h depth).behind _).before _).line depth
  | method decl =>
    rw [Member.restyle_method]
    exact Method.woven_layout hs h depth
  | «constructor» decl =>
    rw [Member.restyle_constructor]
    cases decl
    exact ((woven_block h depth).behind _).line depth
  | «initializer» isStatic statements span =>
    rw [Member.restyle_initializer]
    exact ((woven_block h depth).behind _).line depth
  | nested decl =>
    rw [Member.restyle_nested]
    exact ClassDecl.woven_layout h depth

end Forms

/-! ### Whole trees -/

/-- No arrow group in the part has statements that are not printed. -/
def Part.PrintsAll (p : Part) : Prop := ∀ q, p.Holds q → ∀ c ∈ q.cases, c.PrintsAll

def CompilationUnit.PrintsAll (u : CompilationUnit) : Prop :=
  ∀ c ∈ u.classes, (Part.member (.nested c)).PrintsAll

theorem Part.printsAll_iff {p : Part} :
    p.PrintsAll ↔ (∀ c ∈ p.cases, c.PrintsAll) ∧ ∀ q ∈ p.children, q.PrintsAll :=
  Part.forall_holds_iff

theorem Part.printed {a : Analysis} {s : Settings} (hs : s.dryRun = false) (p : Part)
    (harrow : p.PrintsAll) : p.Printed a s := by
  induction p using Part.induction with
  | step p ih =>
    obtain ⟨hcases, hchildren⟩ := printsAll_iff.mp harrow
    have hparts : ∀ q ∈ p.children, q.Printed a s := fun q hq => ih q hq (hchildren q hq)
    cases p with
    | expr e => exact e.printed hparts hcases
    | stmt t => exact t.printed hparts hcases
    | anonymous b =>
      intro depth
      rw [changes_eq]
      exact woven_members hparts depth
    | member d => exact d.printed hs hparts

namespace CompilationUnit

theorem woven_layout {a : Analysis} {s : Settings} (hs : s.dryRun = false) (u : CompilationUnit)
    (harrow : u.PrintsAll) :
    Layout.Woven (u.outline.methods.filterMap (a.change? s)) u.layout
      (u.restyle (a.style s)).layout := by
  have hclasses : Layout.Woven (u.outline.methods.filterMap (a.change? s))
      (spacedMembers (u.classes.map (ClassDecl.layout 0)))
      (spacedMembers ((u.classes.map (ClassDecl.restyle (a.style s))).map
        (ClassDecl.layout 0))) := by
    rw [methods_outline, List.filterMap_flatMap, List.map_map]
    refine Layout.Woven.spacedMembers fun c hc => ?_
    have hprinted := Part.printed (a := a) hs (.member (.nested c)) (harrow c hc) 0
    rwa [Member.restyle_nested] at hprinted
  exact hclasses.behind _

/-- **The printed difference is the report.**  There are pieces of text such that the unit prints
    as these pieces with the modifier lists before the changes between them, and the unit that a run
    gives back prints as the same pieces with the lists after the changes, in the order of the
    report. -/
theorem run_prints_changes (s : Settings) (hs : s.dryRun = false) (u : CompilationUnit)
    (harrow : u.PrintsAll) :
    ∃ start pieces, pieces.length = (u.run s).report.changes.length ∧
      u.layout.render = Text.fill Change.before start (u.run s).report.changes pieces ∧
      (u.run s).unit.layout.render =
        Text.fill Change.after start (u.run s).report.changes pieces := by
  have hwoven := woven_layout (a := u.analysis) hs u harrow
  rw [run_eq]
  exact Text.Woven.exists_pieces hwoven

/-- `class Clerk { private int rank() {} private void pick() { switch (0) { case 1 -> ; } } }` -/
def clerk : CompilationUnit where
  classes := [ClassDraft.declare ⟨[], .class, "Clerk", none, none, [], [
    .method { keywords := [.private], result := "int", name := "rank" },
    .method
      { keywords := [.private], result := "void", name := "pick"
        body := some [.switch (.literal (.int 0)) [.single [.literal (.int 1)] .empty]] }]⟩]

theorem clerk_printsAll : clerk.PrintsAll := by
  have hleaf : ∀ p : Part, p.cases = [] → p.children = [] → p.PrintsAll := by
    intro p hcases hchildren
    exact Part.printsAll_iff.mpr ⟨by simp [hcases], by simp [hchildren]⟩
  intro c hc
  obtain rfl := List.mem_singleton.mp hc
  refine Part.printsAll_iff.mpr ⟨List.forall_mem_nil _, ?_⟩
  refine List.forall_mem_cons.mpr ⟨hleaf _ rfl rfl, List.forall_mem_singleton.mpr ?_⟩
  refine Part.printsAll_iff.mpr ⟨List.forall_mem_nil _, List.forall_mem_singleton.mpr ?_⟩
  refine Part.printsAll_iff.mpr ⟨List.forall_mem_singleton.mpr fun _ => Nat.le_refl 1, ?_⟩
  refine List.forall_mem_cons.mpr ⟨hleaf _ rfl rfl, List.forall_mem_cons.mpr ⟨hleaf _ rfl rfl, ?_⟩⟩
  exact List.forall_mem_singleton.mpr (hleaf _ rfl rfl)

theorem clerk_run_prints_changes :
    clerk.PrintsAll ∧ (clerk.run {}).report.changes.map (fun c => (c.before, c.after)) =
      [("private", "private static"), ("private", "private static")] ∧
      ∃ start pieces, pieces.length = (clerk.run {}).report.changes.length ∧
        clerk.layout.render = Text.fill Change.before start (clerk.run {}).report.changes pieces ∧
        (clerk.run {}).unit.layout.render =
          Text.fill Change.after start (clerk.run {}).report.changes pieces := by
  exact ⟨clerk_printsAll, by decide, run_prints_changes {} rfl clerk clerk_printsAll⟩

end CompilationUnit

end Receiverless
