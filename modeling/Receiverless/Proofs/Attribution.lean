/-
  Receiverless/Proofs/Attribution.lean
  ====================================
  **Which methods are marked, without a stack.**  The analysis walks outward
  over a stack of frames.  Here the same set is described by the tree alone: a
  method is marked when something in its body uses the instance, and what counts
  as "in its body" depends on the kind of use.

    * A use of the enclosing instance counts at any depth, except inside a member
      class that is declared in the body.
    * The plain receiver counts only outside of all class bodies.

  `Scope.mem_methods_iff` states this with the names of inner classes as the
  analysis looks them up.  If the top-level types are distinct, these are the
  inner classes of the class that the method stands in.
-/
import Mathlib.Data.List.Nodup
import Receiverless.Proofs.FramePaths
import Receiverless.Analysis.Fields
import Receiverless.Draft.Shorthand

namespace Receiverless

/-! ### Uses of the instance -/

namespace Expr

/-- Reads one of the fields, by its simple name or behind the current instance. -/
def ReadsField (fields : List FieldSig) : Expr → Prop
  | .name n => ∃ f ∈ fields, n.field = some f
  | .access target n _ => target.isReceiver = true ∧ ∃ f ∈ fields, n.field = some f
  | _ => False

def NamesOuter : Expr → Prop
  | .self (some _) _ => True
  | _ => False

/-- Creates an object of an inner class, or refers to its constructor. -/
def CreatesInner (isInner : String → Prop) : Expr → Prop
  | .create type _ _ _ => isInner type
  | .methodRef target method _ => method = "new" ∧ ∃ n, target = .name n ∧ isInner n.text
  | _ => False

def UsesEnclosing (fields : List FieldSig) (isInner : String → Prop) (e : Expr) : Prop :=
  e.ReadsField fields ∨ e.NamesOuter ∨ e.CreatesInner isInner

def IsPlainReceiver : Expr → Prop
  | .self none _ | .super => True
  | _ => False

theorem exists_simpleName?_iff {e : Expr} {P : String → Prop} :
    (∃ type, e.simpleName? = some type ∧ P type) ↔ ∃ n, e = .name n ∧ P n.text := by
  cases e with
  | name n => simp [simpleName?]
  | _ => simp [simpleName?]

end Expr

namespace Node

variable {ctx : UsageContext} {frames : List Frame} {σ : MethodSig}

theorem mem_marks_name {n : Name} {own : Bool} :
    σ ∈ (Node.name n own).marks ctx frames ↔
      (own = true ∧ ∃ f ∈ ctx.fields, n.field = some f) ∧ σ ∈ Frame.enclosing frames := by
  obtain ⟨text, field, span⟩ := n
  cases own with
  | false => simp [marks]
  | true =>
    cases field with
    | none => simp [marks]
    | some f =>
      by_cases hf : f ∈ ctx.fields
      · simp [marks, hf]
      · simp [marks, hf]

theorem mem_marks_create {type : String} :
    σ ∈ (Node.create type).marks ctx frames ↔
      ctx.isInner frames type = true ∧ σ ∈ Frame.enclosing frames := by
  cases hinner : ctx.isInner frames type with
  | false => simp [marks, hinner]
  | true => simp [marks, hinner]

theorem mem_marks_methodRef {name : String} {typeName : Option String} :
    σ ∈ (Node.methodRef name typeName).marks ctx frames ↔
      (name = "new" ∧ ∃ type, typeName = some type ∧ ctx.isInner frames type = true) ∧
        σ ∈ Frame.enclosing frames := by
  by_cases hnew : name = "new"
  · subst hnew
    cases typeName with
    | none => simp [marks]
    | some type =>
      cases hinner : ctx.isInner frames type with
      | false => simp [marks, hinner]
      | true => simp [marks, hinner]
  · simp [marks, hnew]

end Node

section Part

attribute [local simp] Part.lead Part.trail Expr.UsesEnclosing Expr.ReadsField Expr.NamesOuter
  Expr.CreatesInner Expr.IsPlainReceiver

/-- What a part marks by itself: an expression that uses the instance marks, and nothing else. -/
theorem Part.exists_mem_marks_iff {ctx : UsageContext} {frames : List Frame} {σ : MethodSig}
    (p : Part) :
    (∃ n ∈ p.lead ++ p.trail, σ ∈ n.marks ctx frames) ↔
      ∃ e, p = .expr e ∧
        ((e.UsesEnclosing ctx.fields (fun name => ctx.isInner frames name = true) ∧
            σ ∈ Frame.enclosing frames) ∨
          (e.IsPlainReceiver ∧ σ ∈ Frame.innermost frames)) := by
  cases p with
  | expr e =>
    cases e with
    | name n => simp [Node.mem_marks_name]
    | access target n span => simp [Node.mem_marks_name]
    | create type args body span => simp [Node.mem_marks_create]
    | methodRef target method span =>
      simp [Node.mem_marks_methodRef, Expr.exists_simpleName?_iff]
    | self qualifier span => cases qualifier <;> simp [Node.marks]
    | _ => simp [Node.marks]
  | stmt s => simp
  | anonymous body => simp
  | member d => cases d <;> simp [Node.marks]

end Part

/-- The body uses the enclosing instance outside of the member classes in it, or has the plain
    receiver outside of all class bodies in it. -/
def Method.UsesInstance (fields : List FieldSig) (isInner : String → Prop) (d : Method) : Prop :=
  (∃ e, (Part.member (.method d)).Reaches Part.isMemberClass (.expr e) ∧
      e.UsesEnclosing fields isInner) ∨
    ∃ e, (Part.member (.method d)).Reaches Part.isClassBody (.expr e) ∧ e.IsPlainReceiver

/-! ### The marked methods of a scope -/

/-- What is analysed: a unit, or a class as if it stood at the top level. -/
inductive Scope where
  | unit (u : CompilationUnit)
  | single (c : ClassDecl)

namespace Scope

def classes : Scope → List ClassDecl
  | .unit u => u.classes
  | .single c => [c]

def usage (fields : List FieldSig) : Scope → Usage
  | .unit u => u.usage fields
  | .single c => c.usage fields

def outline : Scope → Outline
  | .unit u => u.outline
  | .single c => c.outline

theorem collect_outline {α : Type} {f : List Frame → Node → List α} (hf : Thin f)
    (frames : List Frame) (scope : Scope) :
    scope.outline.collect f frames =
      scope.classes.flatMap fun c => (Part.member (.nested c)).outline.collect f frames := by
  cases scope with
  | unit u => exact hf.collect_unit frames u
  | single c =>
    rw [classes, List.flatMap_singleton, hf.collect_nested]
    rfl

theorem usage_eq (fields : List FieldSig) (scope : Scope) :
    scope.usage fields = scope.outline.usage fields scope.classes := by
  cases scope <;> rfl

theorem mem_methods_iff {fields : List FieldSig} {scope : Scope} {σ : MethodSig} :
    σ ∈ (scope.usage fields).methods ↔
      ∃ c ∈ scope.classes, ∃ d, (Part.member (.nested c)).Holds (.member (.method d)) ∧
        d.signature = some σ ∧ d.UsesInstance fields (· ∈ innerNamesOf scope.classes c.type) := by
  rw [usage_eq, Outline.usage, collect_outline (Node.sparse_marks _).toThin, List.mem_flatMap]
  refine exists_congr fun c => and_congr_right fun _ => ?_
  rw [Part.mem_collect_iff (Node.sparse_marks _)]
  simp only [Part.exists_mem_marks_iff]
  constructor
  · rintro ⟨frames, q, hdown, e, rfl, ⟨huse, hσ⟩ | ⟨huse, hσ⟩⟩
    · obtain ⟨d, hholds, hsig, hopen⟩ := Part.exists_enclosing_iff.mp ⟨frames, hdown, hσ⟩
      refine ⟨d, hholds, hsig, Or.inl ⟨e, hopen, ?_⟩⟩
      simpa [UsageContext.isInner, hdown.topLevel?_eq] using huse
    · obtain ⟨d, hholds, hsig, hopen⟩ := Part.exists_innermost_iff.mp ⟨frames, hdown, hσ⟩
      exact ⟨d, hholds, hsig, Or.inr ⟨e, hopen, huse⟩⟩
  · rintro ⟨d, hholds, hsig, ⟨e, hopen, huse⟩ | ⟨e, hopen, huse⟩⟩
    · obtain ⟨frames, hdown, hσ⟩ := Part.exists_enclosing_iff.mpr ⟨d, hholds, hsig, hopen⟩
      refine ⟨frames, .expr e, hdown, e, rfl, Or.inl ⟨?_, hσ⟩⟩
      simpa [UsageContext.isInner, hdown.topLevel?_eq] using huse
    · obtain ⟨frames, hdown, hσ⟩ := Part.exists_innermost_iff.mpr ⟨d, hholds, hsig, hopen⟩
      exact ⟨frames, .expr e, hdown, e, rfl, Or.inr ⟨huse, hσ⟩⟩

end Scope

/-! ### Inner classes -/

/-- The name, simple or qualified, of a direct member class that is not static.  What an interface
    holds is static. -/
def ClassDecl.HasInner (c : ClassDecl) (name : String) : Prop :=
  c.kind ≠ .interface ∧ ∃ inner, Member.nested inner ∈ c.members ∧ inner.kind = .class ∧
    inner.modifiers.has .static = false ∧ (name = inner.name ∨ name = inner.type)

theorem ClassDecl.mem_innerNames_iff {c : ClassDecl} {name : String} :
    name ∈ c.innerNames ↔ c.HasInner name := by
  unfold innerNames HasInner
  by_cases hkind : c.kind = .interface
  · simp [hkind]
  · rw [if_neg hkind, List.mem_flatMap]
    constructor
    · rintro ⟨d, hd, hname⟩
      cases d with
      | nested inner =>
        dsimp only at hname
        by_cases hinner : inner.kind = .class ∧ ¬ inner.modifiers.has .static
        · rw [if_pos hinner] at hname
          exact ⟨hkind, inner, hd, hinner.1, by simpa using hinner.2, by simpa using hname⟩
        · rw [if_neg hinner] at hname
          cases hname
      | _ => cases hname
    · rintro ⟨-, inner, hinner, hclass, hstatic, hname⟩
      refine ⟨.nested inner, hinner, ?_⟩
      simpa [hclass, hstatic] using hname

/-- If the types are distinct, the class that counts for a type is the one with that type. -/
theorem innerNamesOf_eq {cs : List ClassDecl} {c : ClassDecl}
    (hdistinct : (cs.map ClassDecl.type).Nodup) (hc : c ∈ cs) :
    innerNamesOf cs c.type = c.innerNames := by
  unfold innerNamesOf
  cases hlast : (cs.filter fun x => x.type == c.type && !x.innerNames.isEmpty).getLast? with
  | none =>
    have hnil := List.getLast?_eq_none_iff.mp hlast
    have hempty := List.filter_eq_nil_iff.mp hnil c hc
    simpa using hempty
  | some x =>
    obtain ⟨hx, htype⟩ := List.mem_filter.mp (List.mem_of_getLast? hlast)
    have hsame : x.type = c.type := beq_iff_eq.mp (Bool.and_eq_true_iff.mp htype).1
    rw [List.inj_on_of_nodup_map hdistinct hx hc hsame]

/-- **Attribution.**  A signature is marked exactly if a method declared under it uses the instance,
    where the inner classes are those of the top-level class around the method. -/
theorem Scope.mem_methods_iff_usesInstance (fields : List FieldSig) (scope : Scope)
    (hdistinct : (scope.classes.map ClassDecl.type).Nodup) (σ : MethodSig) :
    σ ∈ (scope.usage fields).methods ↔
      ∃ c ∈ scope.classes, ∃ d, (Part.member (.nested c)).Holds (.member (.method d)) ∧
        d.signature = some σ ∧ d.UsesInstance fields c.HasInner := by
  have hinner : ∀ c ∈ scope.classes,
      (fun name => name ∈ innerNamesOf scope.classes c.type) = c.HasInner := by
    intro c hc
    funext name
    rw [innerNamesOf_eq hdistinct hc]
    exact propext ClassDecl.mem_innerNames_iff
  rw [mem_methods_iff]
  refine exists_congr fun c => and_congr_right fun hc => ?_
  rw [hinner c hc]

def shopSig (name : String) : MethodSig := ⟨"Shop", name, [], "Object"⟩

/-- A class whose method `view` reads a field in an anonymous class in a lambda, `self` names the
    receiver there, `order` creates an inner class and `plan` reads the field only in a member class
    of a local class. -/
def shop : ClassDecl :=
  let stock := Expr.fieldName "stock" ⟨"Shop", "stock", "int"⟩
  let method (name : String) (body : List Stmt) : MemberDraft :=
    .method { result := "Object", name, body := some body }
  let later (value : Expr) : Expr := .function [] (.expr (.anonymous "Task" "Shop$1"
    [{ result := "int", name := "call", body := some [.ret (some value)] }]))
  let basket := ClassDraft.declare ⟨[], .class, "Basket", some "Shop$Plan$Basket", none, [],
    [.method { result := "int", name := "size", body := some [.ret (some stock)] }]⟩
  ClassDraft.declare ⟨[], .class, "Shop", none, none, [], [
    .field (.named "int" "stock"),
    .nested ⟨[], .class, "Order", none, none, [], []⟩,
    method "view" [.ret (some (later stock))],
    method "self" [.ret (some (later .current))],
    method "order" [.ret (some (.creation "Order" []))],
    method "plan" [.localClass (ClassDraft.declare
      ⟨[], .class, "Plan", some "Shop$Plan", none, [], [.ready (.nested basket)]⟩)]]⟩

/-- Of these, `view` and `order` use the instance, the other two do not. -/
theorem shop_usesInstance :
    let scope := Scope.single shop
    let usedBy (name : String) : Prop :=
      ∃ c ∈ scope.classes, ∃ d, (Part.member (.nested c)).Holds (.member (.method d)) ∧
        d.signature = some (shopSig name) ∧ d.UsesInstance shop.instanceFields c.HasInner
    (scope.classes.map ClassDecl.type).Nodup ∧
      usedBy "view" ∧ usedBy "order" ∧ ¬ usedBy "self" ∧ ¬ usedBy "plan" := by
  have hiff := Scope.mem_methods_iff_usesInstance shop.instanceFields (.single shop) (by decide)
  refine ⟨by decide, ?_, ?_, ?_, ?_⟩
  · exact (hiff (shopSig "view")).mp (by decide)
  · exact (hiff (shopSig "order")).mp (by decide)
  · exact fun h => absurd ((hiff (shopSig "self")).mpr h) (by decide)
  · exact fun h => absurd ((hiff (shopSig "plan")).mpr h) (by decide)

end Receiverless
