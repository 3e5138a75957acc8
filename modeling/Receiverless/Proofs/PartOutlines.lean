/-
  Receiverless/Proofs/PartOutlines.lean
  =====================================
  **Outlines, part by part.**  The outline of a tree has more nodes than the
  tree has parts: most of them only say which form a construct has.  What the
  analyses ask about are the names, receivers, calls, creations and method
  declarations, and each part has at most one of these of its own.

  `Part.collect_thin` is the one place where the outline of every form of
  construct is looked at.  It says that what is collected over a part is what
  the part contributes itself and what is collected over its direct parts, in
  the frames around those.  Everything said later about an analysis or about
  the list of methods follows from it by induction over parts.
-/
import Mathlib.Data.List.Basic
import Receiverless.Proofs.Parts
import Receiverless.Analysis.InstanceUse

namespace Receiverless

/-! ### Outlines of lists -/

namespace Part

def outline : Part → Outline
  | .expr e => e.outline
  | .stmt s => s.outline
  | .anonymous body => .node (.anonymousBody body.type) (memberOutlines body.members)
  | .member d => d.outline

@[simp] theorem outline_expr (e : Expr) : (Part.expr e).outline = e.outline := rfl

@[simp] theorem outline_stmt (s : Stmt) : (Part.stmt s).outline = s.outline := rfl

@[simp] theorem outline_member (d : Member) : (Part.member d).outline = d.outline := rfl

end Part

theorem exprOutlines_eq_map (es : List Expr) : exprOutlines es = es.map Expr.outline := by
  induction es with
  | nil => rfl
  | cons e es ih => simp [exprOutlines, ih]

theorem stmtOutlines_eq_map (ss : List Stmt) : stmtOutlines ss = ss.map Stmt.outline := by
  induction ss with
  | nil => rfl
  | cons s ss ih => simp [stmtOutlines, ih]

theorem memberOutlines_eq_map (ds : List Member) : memberOutlines ds = ds.map Member.outline := by
  induction ds with
  | nil => rfl
  | cons d ds ih => simp [memberOutlines, ih]

theorem caseOutlines_eq_map (cs : List Case) :
    caseOutlines cs = (cs.flatMap Case.parts).map Part.outline := by
  induction cs with
  | nil => rfl
  | cons c cs ih =>
    obtain ⟨labels, arrow, body⟩ := c
    simp [caseOutlines, exprOutlines_eq_map, stmtOutlines_eq_map, Case.parts, ih,
      Function.comp_def]

theorem declaratorOutlines_eq_map (ds : List Declarator) :
    declaratorOutlines ds = (initParts ds).map Part.outline := by
  induction ds with
  | nil => rfl
  | cons d ds ih =>
    obtain ⟨n, _ | init, signature, span⟩ := d
    · simpa [declaratorOutlines, initParts] using ih
    · simpa [declaratorOutlines, initParts] using ih

theorem resourceOutlines_eq_map (rs : List Resource) :
    resourceOutlines rs = rs.map fun r => r.value.outline := by
  induction rs with
  | nil => rfl
  | cons r rs ih =>
    obtain ⟨declares, value⟩ := r
    simp [resourceOutlines, ih]

theorem catchOutlines_eq_map (cs : List CatchClause) :
    catchOutlines cs =
      cs.map fun c => .node (.block c.body.length) (c.body.map Stmt.outline) := by
  induction cs with
  | nil => rfl
  | cons c cs ih =>
    obtain ⟨param, body⟩ := c
    simp [catchOutlines, stmtOutlines_eq_map, ih]

theorem Outline.collectAll_eq_flatMap {α : Type} (f : List Frame → Node → List α)
    (frames : List Frame) (os : List Outline) :
    Outline.collectAll f frames os = os.flatMap (Outline.collect f frames) := by
  induction os with
  | nil => rfl
  | cons o os ih => simp [Outline.collectAll, ih]

/-! ### What a part has of its own -/

namespace Part

def expr? : Part → Option Expr
  | .expr e => some e
  | _ => none

/-- The node of a part that stands before its direct parts. -/
def lead : Part → List Node
  | .expr (.name n) => [.name n true]
  | .expr (.self qualifier _) => [.self qualifier]
  | .expr .super => [.super]
  | .expr (.call receiver n _ target _) => [.call n (implicitReceiver receiver) target]
  | .expr (.methodRef target n _) => [.methodRef n target.simpleName?]
  | .expr (.create type _ _ _) => [.create type]
  | .member (.method decl) => [.method decl]
  | _ => []

/-- The node of a part that stands behind them: the name in a field access. -/
def trail : Part → List Node
  | .expr (.access target n _) => [.name n target.isReceiver]
  | _ => []

/-- The frame that a part puts around its direct parts. -/
def frame? : Part → Option Frame
  | .member (.field _) => some .field
  | .member (.method decl) => some (.method decl.signature)
  | .member (.nested decl) => some (.memberClass decl.type)
  | .stmt (.localClass decl) => some (.localClass decl.type)
  | .anonymous body => some (.localClass (body.type.getD ""))
  | _ => none

def enter (p : Part) (frames : List Frame) : List Frame := p.frame?.toList ++ frames

/-- Only names stand behind the direct parts. -/
theorem flatMap_trail {α : Type} {g : Node → List α} (hname : ∀ n own, g (.name n own) = [])
    (p : Part) : p.trail.flatMap g = [] := by
  fun_cases trail p with
  | case1 target n span => rw [List.flatMap_singleton, hname]
  | case2 => rfl

end Part

/-- A contribution that passes over the nodes that only give the form of a construct, those of
    expressions perhaps excepted. -/
structure Thin {α : Type} (f : List Frame → Node → List α) : Prop where
  unit : ∀ frames n, f frames (.unit n) = []
  memberClass : ∀ frames c, f frames (.memberClass c) = []
  localClass : ∀ frames c, f frames (.localClass c) = []
  anonymousBody : ∀ frames t, f frames (.anonymousBody t) = []
  member : ∀ frames d, f frames (.member d) = []
  field : ∀ frames d, f frames (.field d) = []
  constructor : ∀ frames n, f frames (.constructor n) = []
  initializer : ∀ frames b, f frames (.initializer b) = []
  block : ∀ frames n, f frames (.block n) = []
  stmt : ∀ frames s, f frames (.stmt s) = []
  access : ∀ frames n b, f frames (.access n b) = []
  lambda : ∀ frames n, f frames (.lambda n) = []

/-- One that passes over the nodes of expressions too. -/
structure Sparse {α : Type} (f : List Frame → Node → List α) : Prop extends Thin f where
  expr : ∀ frames e, f frames (.expr e) = []

/-- Whether a node only gives the form of a construct. -/
def Node.isForm : Node → Bool
  | .name _ _ | .self _ | .super | .call _ _ _ | .methodRef _ _ | .create _ | .method _ => false
  | _ => true

theorem Sparse.of_isForm {α : Type} {f : List Frame → Node → List α}
    (h : ∀ frames n, Node.isForm n = true → f frames n = []) : Sparse f where
  unit frames _ := h frames _ rfl
  memberClass frames _ := h frames _ rfl
  localClass frames _ := h frames _ rfl
  anonymousBody frames _ := h frames _ rfl
  member frames _ := h frames _ rfl
  field frames _ := h frames _ rfl
  constructor frames _ := h frames _ rfl
  initializer frames _ := h frames _ rfl
  block frames _ := h frames _ rfl
  stmt frames _ := h frames _ rfl
  expr frames _ := h frames _ rfl
  access frames _ _ := h frames _ rfl
  lambda frames _ := h frames _ rfl

theorem Node.sparse_method? : Sparse fun _ n => (Node.method? n).toList :=
  Sparse.of_isForm fun _ n h => by cases n <;> cases h <;> rfl

theorem Node.sparse_marks (ctx : UsageContext) : Sparse fun frames n => n.marks ctx frames :=
  Sparse.of_isForm fun _ n h => by cases n <;> cases h <;> rfl

theorem Node.sparse_calls : Sparse fun frames n => n.calls frames :=
  Sparse.of_isForm fun _ n h => by cases n <;> cases h <;> rfl

section Collect

variable {α : Type} {f : List Frame → Node → List α}

attribute [local simp] Outline.collect Outline.collectAll_eq_flatMap Outline.leaf
  exprOutlines_eq_map stmtOutlines_eq_map memberOutlines_eq_map caseOutlines_eq_map
  declaratorOutlines_eq_map resourceOutlines_eq_map catchOutlines_eq_map
  Node.enter Node.frame? Part.enter Part.frame? Part.expr? Part.lead Part.trail List.flatMap_map

theorem Thin.collect_method (hf : Thin f) (frames : List Frame) (m : Method) :
    m.outline.collect f frames = f frames (.method m) ++
      (m.body.getD []).flatMap fun s => s.outline.collect f (.method m.signature :: frames) := by
  rcases m with ⟨_, _, _, _, _, _, _ | body, _, _⟩ <;> simp [Method.outline, hf.block]

theorem Thin.collect_classDecl (hf : Thin f) (frames : List Frame) (c : ClassDecl) :
    c.outline.collect f frames =
      c.members.flatMap fun d => d.outline.collect f (.memberClass c.type :: frames) := by
  obtain ⟨_, _, _, _, _, _, members, _⟩ := c
  simp [ClassDecl.outline, hf.memberClass]

/-- What is collected over a part: its own nodes, what its direct parts give in the frames around
    them, and the name behind an access. -/
theorem Part.collect_thin (hf : Thin f) (frames : List Frame) (p : Part) :
    p.outline.collect f frames =
      p.expr?.toList.flatMap (fun e => f frames (.expr e)) ++ p.lead.flatMap (f frames) ++
        p.children.flatMap (fun q => q.outline.collect f (p.enter frames)) ++
        p.trail.flatMap (f frames) := by
  cases p with
  | expr e =>
    fun_cases Expr.outline e <;>
      simp [Expr.outline, Expr.parts, LambdaBody.parts, Part.outline, implicitReceiver,
        hf.access, hf.anonymousBody, hf.lambda, hf.block]
  | stmt s =>
    fun_cases Stmt.outline s <;>
      simp [Stmt.outline, Stmt.parts, List.flatMap_assoc, hf.stmt, hf.block, hf.localClass]
  | anonymous body => simp [Part.outline, hf.anonymousBody]
  | member d =>
    fun_cases Member.outline d <;>
      simp [Member.outline, Member.parts, hf.collect_method, hf.collect_classDecl, hf.member,
        hf.field, hf.constructor, hf.initializer, hf.block]

theorem Part.collect_outline (hf : Sparse f) (frames : List Frame) (p : Part) :
    p.outline.collect f frames =
      p.lead.flatMap (f frames) ++
        p.children.flatMap (fun q => q.outline.collect f (p.enter frames)) ++
        p.trail.flatMap (f frames) := by
  have hexpr : p.expr?.toList.flatMap (fun e => f frames (.expr e)) = [] := by
    cases p <;> simp [hf.expr]
  rw [p.collect_thin hf.toThin, hexpr, List.nil_append]

theorem Thin.collect_nested (hf : Thin f) (frames : List Frame) (c : ClassDecl) :
    (Part.member (.nested c)).outline.collect f frames = c.outline.collect f frames := by
  simp [Member.outline, hf.member]

theorem Thin.collect_unit (hf : Thin f) (frames : List Frame) (u : CompilationUnit) :
    u.outline.collect f frames =
      u.classes.flatMap fun c => (Part.member (.nested c)).outline.collect f frames := by
  simp only [hf.collect_nested]
  simp [CompilationUnit.outline, hf.unit]

end Collect

/-! ### The way down, with its frames -/

namespace Part

/-- One step down: to a direct part, in the frames around it. -/
def Below (a b : List Frame × Part) : Prop := b.1 = a.2.enter a.1 ∧ b.2 ∈ a.2.children

def Descends : List Frame × Part → List Frame × Part → Prop := Relation.ReflTransGen Below

variable {α : Type} {f : List Frame → Node → List α}

/-- What is collected over a part is contributed by some part in it, in the frames that the way
    down to that part puts around it. -/
theorem mem_collect_iff (hf : Sparse f) (x : α) (p : Part) (frames : List Frame) :
    x ∈ p.outline.collect f frames ↔ ∃ frames' q, Descends (frames, p) (frames', q) ∧
      ∃ n ∈ q.lead ++ q.trail, x ∈ f frames' n := by
  induction p using Part.induction generalizing frames with
  | step p ih =>
    rw [p.collect_outline hf]
    constructor
    · intro hx
      rcases List.mem_append.mp hx with hx | hx
      · rcases List.mem_append.mp hx with hx | hx
        · obtain ⟨n, hn, hx⟩ := List.mem_flatMap.mp hx
          exact ⟨frames, p, .refl, n, List.mem_append_left _ hn, hx⟩
        · obtain ⟨q, hq, hx⟩ := List.mem_flatMap.mp hx
          obtain ⟨frames', r, hr, hn⟩ := (ih q hq _).mp hx
          exact ⟨frames', r, .head ⟨rfl, hq⟩ hr, hn⟩
      · obtain ⟨n, hn, hx⟩ := List.mem_flatMap.mp hx
        exact ⟨frames, p, .refl, n, List.mem_append_right _ hn, hx⟩
    · rintro ⟨frames', q, hq, n, hn, hx⟩
      rcases Relation.ReflTransGen.cases_head hq with heq | ⟨⟨F, r⟩, ⟨hF, hr⟩, hdown⟩
      · obtain ⟨rfl, rfl⟩ := Prod.mk.inj heq
        rcases List.mem_append.mp hn with hn | hn
        · exact List.mem_append_left _
            (List.mem_append_left _ (List.mem_flatMap.mpr ⟨n, hn, hx⟩))
        · exact List.mem_append_right _ (List.mem_flatMap.mpr ⟨n, hn, hx⟩)
      · obtain rfl : F = p.enter frames := hF
        refine List.mem_append_left _ (List.mem_append_right _ ?_)
        exact List.mem_flatMap.mpr ⟨r, hr, (ih r hr _).mpr ⟨frames', q, hdown, n, hn, hx⟩⟩

end Part

/-! ### The methods in a part -/

mutual

theorem Outline.filterMap_nodes {α : Type} (g : Node → Option α) (frames : List Frame) :
    ∀ o : Outline, o.nodes.filterMap g = o.collect (fun _ n => (g n).toList) frames
  | .node label children => by
    have hchildren := Outline.filterMap_nodesOfAll g (label.enter frames) children
    cases hg : g label <;> simp [Outline.nodes, Outline.collect, hchildren, hg]

theorem Outline.filterMap_nodesOfAll {α : Type} (g : Node → Option α) (frames : List Frame) :
    ∀ os : List Outline, (Outline.nodesOfAll os).filterMap g =
      Outline.collectAll (fun _ n => (g n).toList) frames os
  | [] => rfl
  | o :: os => by
    simp [Outline.nodesOfAll, Outline.collectAll, Outline.filterMap_nodes g frames o,
      Outline.filterMap_nodesOfAll g frames os]

end

namespace Part

def method? : Part → Option Method
  | .member (.method decl) => some decl
  | _ => none

theorem eq_of_method?_eq_some {p : Part} {m : Method} (h : p.method? = some m) :
    p = .member (.method m) := by
  unfold method? at h
  split at h
  · rw [Option.some.inj h]
  · cases h

/-- All method declarations of a part, an enclosing method before those in its body. -/
def methods (p : Part) : List Method :=
  p.method?.toList ++ p.children.attach.flatMap fun q => q.1.methods
termination_by sizeOf p
decreasing_by exact sizeOf_lt_of_mem_children q.2

theorem methods_eq (p : Part) : p.methods = p.method?.toList ++ p.children.flatMap methods := by
  rw [methods]
  simp only [List.flatMap_subtype, List.unattach_attach]

/-- The method nodes of the outline are the same declarations in the same order. -/
theorem collect_method? (frames : List Frame) (p : Part) :
    p.outline.collect (fun _ n => (Node.method? n).toList) frames = p.methods := by
  induction p using Part.induction generalizing frames with
  | step p ih =>
    have hlead : p.lead.flatMap (fun n => n.method?.toList) = p.method?.toList := by
      fun_cases lead p <;> simp_all [Node.method?, method?]
    rw [collect_outline Node.sparse_method?, hlead, p.flatMap_trail fun _ _ => rfl,
      List.append_nil, methods_eq, List.flatMap_congr fun q hq => ih q hq _]

theorem methods_expr (e : Expr) : (Part.expr e).methods = e.parts.flatMap methods := methods_eq _

theorem methods_stmt (s : Stmt) : (Part.stmt s).methods = s.parts.flatMap methods := methods_eq _

theorem methods_anonymous (body : AnonymousBody) :
    (Part.anonymous body).methods = body.members.flatMap fun d => (Part.member d).methods := by
  rw [methods_eq]
  exact List.flatMap_map ..

theorem methods_nested (c : ClassDecl) :
    (Part.member (.nested c)).methods = c.members.flatMap fun d => (Part.member d).methods := by
  rw [methods_eq]
  exact List.flatMap_map ..

theorem mem_methods_iff (m : Method) (p : Part) :
    m ∈ p.methods ↔ p.Holds (.member (.method m)) := by
  induction p using Part.induction with
  | step p ih =>
    rw [methods_eq, List.mem_append, List.mem_flatMap]
    constructor
    · rintro (hm | ⟨q, hq, hm⟩)
      · have hp : p = .member (.method m) := eq_of_method?_eq_some (by simpa using hm)
        exact hp ▸ Reaches.refl
      · exact (holds_of_mem_children hq).trans ((ih q hq).mp hm)
    · intro h
      rcases Relation.ReflTransGen.cases_head h with rfl | ⟨q, ⟨-, hq⟩, hm⟩
      · exact Or.inl (by simp [method?])
      · exact Or.inr ⟨q, hq, (ih q hq).mpr hm⟩

end Part

theorem CompilationUnit.methods_outline (u : CompilationUnit) :
    u.outline.methods = u.classes.flatMap fun c => (Part.member (.nested c)).methods := by
  rw [Outline.methods, Outline.filterMap_nodes _ [], Node.sparse_method?.collect_unit]
  simp only [Part.collect_method?]

end Receiverless
