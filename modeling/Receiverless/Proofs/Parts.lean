/-
  Receiverless/Proofs/Parts.lean
  ==============================
  **The parts of a tree.**  Properties of a whole tree ("at no depth", "not
  inside a class body") speak of the constructs in it and of the way down to
  them, and not of the forty forms a construct can have.  This file names the
  constructs that hold others, lists the direct parts of each in source order,
  and gives the two tools that all later arguments use: induction over parts,
  and the relation "lies in, without passing through".

  Class bodies come in three kinds.  A member class is a member, a local class
  is a statement; the body of an anonymous class is a part of its own, because
  the arguments of the creation stand beside it and not in it.
-/
import Mathlib.Logic.Relation
import Receiverless.Tree.Basic

namespace Receiverless

/-- A construct of a tree. -/
inductive Part where
  | expr (e : Expr)
  | stmt (s : Stmt)
  | anonymous (body : AnonymousBody)
  | member (d : Member)

/-! ### The direct parts of a construct -/

def Case.parts (c : Case) : List Part := c.labels.map .expr ++ c.body.map .stmt

def LambdaBody.parts : LambdaBody → List Part
  | .expr value => [.expr value]
  | .block statements => statements.map .stmt

/-- The initial values among declared variables. -/
def initParts (ds : List Declarator) : List Part :=
  ds.flatMap fun d => d.init.toList.map .expr

def Expr.parts : Expr → List Part
  | .literal _ | .name _ | .self _ _ | .super => []
  | .access operand _ _ | .methodRef operand _ _ | .unary _ operand | .cast _ operand
  | .instanceOf operand _ _ | .paren operand => [.expr operand]
  | .binary _ left right | .assign _ left right | .index left right => [.expr left, .expr right]
  | .conditional condition yes no => [.expr condition, .expr yes, .expr no]
  | .call receiver _ args _ _ => receiver.toList.map .expr ++ args.map .expr
  | .create _ args body _ => args.map .expr ++ body.toList.map .anonymous
  | .newArray _ dimensions _ elements => dimensions.map .expr ++ (elements.getD []).map .expr
  | .arrayInit elements => elements.map .expr
  | .switch selector cases => .expr selector :: cases.flatMap Case.parts
  | .lambda _ body _ => body.parts

def Stmt.parts : Stmt → List Part
  | .block body => body.map .stmt
  | .locals _ _ declarators => initParts declarators
  | .eval value | .raise value | .yield value => [.expr value]
  | .ret value => value.toList.map .expr
  | .ifElse condition yes no => .expr condition :: .stmt yes :: no.toList.map .stmt
  | .whileLoop condition body => [.expr condition, .stmt body]
  | .doLoop body condition => [.stmt body, .expr condition]
  | .forLoop init condition update body =>
    init.map .stmt ++ condition.toList.map .expr ++ update.map .expr ++ [.stmt body]
  | .forEach _ iterable body => [.expr iterable, .stmt body]
  | .tryCatch resources body catches final =>
    resources.map (fun r => .expr r.value) ++ body.map .stmt ++
      catches.flatMap (fun c => c.body.map .stmt) ++ (final.getD []).map .stmt
  | .locked lock body => .expr lock :: body.map .stmt
  | .switch selector cases => .expr selector :: cases.flatMap Case.parts
  | .labelled _ body => [.stmt body]
  | .check condition message => .expr condition :: message.toList.map .expr
  | .localClass decl => decl.members.map .member
  | .leave _ | .next _ | .empty => []

def Member.parts : Member → List Part
  | .field decl => initParts decl.declarators
  | .method decl => (decl.body.getD []).map .stmt
  | .constructor decl => decl.body.map .stmt
  | .initializer _ body _ => body.map .stmt
  | .nested decl => decl.members.map .member

namespace Part

def children : Part → List Part
  | .expr e => e.parts
  | .stmt s => s.parts
  | .anonymous body => body.members.map .member
  | .member d => d.parts

@[simp] theorem children_expr (e : Expr) : (Part.expr e).children = e.parts := rfl

@[simp] theorem children_stmt (s : Stmt) : (Part.stmt s).children = s.parts := rfl

@[simp] theorem children_anonymous (body : AnonymousBody) :
    (Part.anonymous body).children = body.members.map .member := rfl

@[simp] theorem children_member (d : Member) : (Part.member d).children = d.parts := rfl

end Part

/-! ### Induction over parts

A part is smaller than the construct it is a part of.  The lists of statements,
arguments, cases and so on that stand between the two are passed by
`List.sizeOf_lt_of_mem`. -/

section Size

attribute [local grind →] List.sizeOf_lt_of_mem

theorem Case.sizeOf_le_of_mem_parts {c : Case} {q : Part} (h : q ∈ c.parts) :
    sizeOf q ≤ sizeOf c := by
  cases c
  grind [Case.parts]

theorem sizeOf_lt_of_mem_initParts {ds : List Declarator} {q : Part} (h : q ∈ initParts ds) :
    sizeOf q < sizeOf ds := by
  obtain ⟨⟨_, init, _, _⟩, hd, hq⟩ := List.mem_flatMap.mp h
  cases init <;> grind

theorem Expr.sizeOf_le_of_mem_parts {e : Expr} {q : Part} (h : q ∈ e.parts) :
    sizeOf q ≤ sizeOf e := by
  cases e with
  | newArray _ _ _ elements => cases elements <;> grind [Expr.parts]
  | lambda _ body _ => cases body <;> grind [Expr.parts, LambdaBody.parts]
  | _ => grind [Expr.parts, → Case.sizeOf_le_of_mem_parts]

theorem Stmt.sizeOf_le_of_mem_parts {s : Stmt} {q : Part} (h : q ∈ s.parts) :
    sizeOf q ≤ sizeOf s := by
  cases s with
  | localClass decl =>
    cases decl
    grind [Stmt.parts]
  | tryCatch resources body catches final =>
    have hvalue : ∀ r : Resource, sizeOf r.value < sizeOf r := by
      rintro ⟨_, _⟩
      grind
    have hbody : ∀ c : CatchClause, sizeOf c.body < sizeOf c := by
      rintro ⟨_, _⟩
      grind
    cases final <;> grind [Stmt.parts]
  | _ => grind [Stmt.parts, → Case.sizeOf_le_of_mem_parts, → sizeOf_lt_of_mem_initParts]

theorem Member.sizeOf_le_of_mem_parts {d : Member} {q : Part} (h : q ∈ d.parts) :
    sizeOf q ≤ sizeOf d := by
  cases d with
  | field decl =>
    cases decl
    grind [Member.parts, → sizeOf_lt_of_mem_initParts]
  | method decl =>
    rcases decl with ⟨_, _, _, _, _, _, _ | body, _, _⟩ <;> grind [Member.parts]
  | constructor decl =>
    cases decl
    grind [Member.parts]
  | initializer _ body _ => grind [Member.parts]
  | nested decl =>
    cases decl
    grind [Member.parts]

namespace Part

theorem sizeOf_lt_of_mem_children {p q : Part} (h : q ∈ p.children) : sizeOf q < sizeOf p := by
  cases p with
  | expr e =>
    have := Expr.sizeOf_le_of_mem_parts h
    grind
  | stmt s =>
    have := Stmt.sizeOf_le_of_mem_parts h
    grind
  | anonymous body =>
    cases body
    grind [children]
  | member d =>
    have := Member.sizeOf_le_of_mem_parts h
    grind

/-- What holds of a part whenever it holds of its direct parts, holds of every part. -/
theorem induction {P : Part → Prop} (step : ∀ p : Part, (∀ q ∈ p.children, P q) → P p)
    (p : Part) : P p :=
  step p fun q hq =>
    have := sizeOf_lt_of_mem_children hq
    Part.induction step q
termination_by sizeOf p

end Part

end Size

/-! ### Lying in a part -/

namespace Part

def isMemberClass : Part → Bool
  | .member (.nested _) => true
  | _ => false

theorem exists_eq_of_isMemberClass {p : Part} (h : p.isMemberClass = true) :
    ∃ c, p = .member (.nested c) := by
  unfold isMemberClass at h
  split at h
  · exact ⟨_, rfl⟩
  · cases h

/-- Whether the part is a class body, of a member, local or anonymous class. -/
def isClassBody : Part → Bool
  | .member (.nested _) | .stmt (.localClass _) | .anonymous _ => true
  | _ => false

/-- `p.Reaches closed q`: `q` is `p` or lies in it at any depth, and neither `p` nor a part on the
    way down to `q` is closed. -/
def Reaches (closed : Part → Bool) : Part → Part → Prop :=
  Relation.ReflTransGen fun p q => closed p = false ∧ q ∈ p.children

/-- `q` is `p` or lies in it at any depth. -/
def Holds : Part → Part → Prop := Reaches fun _ => false

variable {closed closed' : Part → Bool} {p q r : Part}

theorem Reaches.refl : p.Reaches closed p := Relation.ReflTransGen.refl

theorem Reaches.tail (h : p.Reaches closed q) (hq : closed q = false) (hr : r ∈ q.children) :
    p.Reaches closed r :=
  Relation.ReflTransGen.tail h ⟨hq, hr⟩

theorem Reaches.trans (h : p.Reaches closed q) (h' : q.Reaches closed r) : p.Reaches closed r :=
  Relation.ReflTransGen.trans h h'

/-- With fewer closed parts more is reached. -/
theorem Reaches.mono (h : p.Reaches closed q) (hle : ∀ x, closed x = false → closed' x = false) :
    p.Reaches closed' q :=
  Relation.ReflTransGen.mono (fun _ _ hx => ⟨hle _ hx.1, hx.2⟩) _ _ h

theorem Reaches.holds (h : p.Reaches closed q) : p.Holds q := h.mono fun _ _ => rfl

theorem holds_of_mem_children (h : q ∈ p.children) : p.Holds q := Reaches.refl.tail rfl h

/-- What holds of all parts in a part, step by step. -/
theorem forall_holds_iff {P : Part → Prop} :
    (∀ q, p.Holds q → P q) ↔ P p ∧ ∀ q ∈ p.children, ∀ r, q.Holds r → P r := by
  constructor
  · intro h
    refine ⟨h p Reaches.refl, ?_⟩
    intro q hq r hr
    exact h r ((holds_of_mem_children hq).trans hr)
  · rintro ⟨hp, hchildren⟩ r hr
    rcases Relation.ReflTransGen.cases_head hr with rfl | ⟨q, ⟨-, hq⟩, hqr⟩
    · exact hp
    · exact hchildren q hq r hqr

theorem exists_holds_iff {P : Part → Prop} :
    (∃ q, p.Holds q ∧ P q) ↔ P p ∨ ∃ q ∈ p.children, ∃ r, q.Holds r ∧ P r := by
  constructor
  · rintro ⟨r, hr, hP⟩
    rcases Relation.ReflTransGen.cases_head hr with rfl | ⟨q, ⟨-, hq⟩, hqr⟩
    · exact Or.inl hP
    · exact Or.inr ⟨q, hq, r, hqr, hP⟩
  · rintro (hP | ⟨q, hq, r, hr, hP⟩)
    · exact ⟨p, Reaches.refl, hP⟩
    · exact ⟨r, (holds_of_mem_children hq).trans hr, hP⟩

/-- The parts that lie a number of steps down. -/
def level (p : Part) : Nat → List Part
  | 0 => [p]
  | n + 1 => (p.level n).flatMap children

/-- The same, level by level down to an empty one.  In this form it can be evaluated. -/
theorem forall_holds_of_level {P : Part → Prop} (depth : Nat) (hend : p.level depth = [])
    (h : ∀ k < depth, ∀ q ∈ p.level k, P q) : ∀ q, p.Holds q → P q := by
  intro q hq
  have hlevel : ∃ k, q ∈ p.level k := by
    induction hq with
    | refl => exact ⟨0, List.mem_singleton.mpr rfl⟩
    | tail _ hstep ih =>
      obtain ⟨k, hk⟩ := ih
      exact ⟨k + 1, List.mem_flatMap.mpr ⟨_, hk, hstep.2⟩⟩
  have hempty : ∀ n, p.level (depth + n) = [] := by
    intro n
    induction n with
    | zero => exact hend
    | succ n ih => rw [← Nat.add_assoc, level, ih, List.flatMap_nil]
  obtain ⟨k, hk⟩ := hlevel
  by_cases hlt : k < depth
  · exact h k hlt q hk
  · obtain ⟨n, rfl⟩ := Nat.exists_eq_add_of_le (Nat.not_lt.mp hlt)
    rw [hempty] at hk
    cases hk

/-- Either the way down to a part is open, or a closed part is passed on it. -/
theorem Holds.reaches_or (h : p.Holds q) :
    p.Reaches closed q ∨ ∃ x, closed x = true ∧ p.Holds x ∧ x.Holds q := by
  induction h with
  | refl => exact Or.inl Reaches.refl
  | tail hq hr ih =>
    rename_i x y
    rcases ih with hopen | ⟨z, hz, hpz, hzx⟩
    · cases hx : closed x with
      | false => exact Or.inl (hopen.tail hx hr.2)
      | true => exact Or.inr ⟨x, hx, hq, holds_of_mem_children hr.2⟩
    · exact Or.inr ⟨z, hz, hpz, Reaches.tail hzx rfl hr.2⟩

end Part

theorem Case.member_notMem_parts (c : Case) (d : Member) : Part.member d ∉ c.parts := by
  simp [Case.parts]

theorem member_notMem_initParts (ds : List Declarator) (d : Member) :
    Part.member d ∉ initParts ds := by
  simp [initParts]

theorem Expr.member_notMem_parts (e : Expr) (d : Member) : Part.member d ∉ e.parts := by
  cases e with
  | lambda _ body _ => cases body <;> simp [Expr.parts, LambdaBody.parts]
  | _ => simp [Expr.parts, Case.member_notMem_parts]

namespace Part

/-- Members stand in class bodies and nowhere else. -/
theorem isClassBody_of_member_mem {p : Part} {d : Member} (h : .member d ∈ p.children) :
    p.isClassBody = true := by
  cases p with
  | expr e => exact absurd h (Expr.member_notMem_parts e d)
  | stmt s =>
    cases s with
    | localClass decl => rfl
    | _ => simp [Stmt.parts, Case.member_notMem_parts, member_notMem_initParts] at h
  | anonymous body => rfl
  | member d' =>
    cases d' with
    | nested decl => rfl
    | _ => simp [Member.parts, member_notMem_initParts] at h

end Part

end Receiverless
