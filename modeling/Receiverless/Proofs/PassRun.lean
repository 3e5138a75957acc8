/-
  Receiverless/Proofs/PassRun.lean
  ================================
  **What a run does, in one equation.**  `CompilationUnit.run_eq` takes the walk
  of the pass apart: the unit that comes out is the unit that went in, restyled,
  and the report lists the eligible methods in the order of the outline.  From
  here on the walk itself is never opened again.

  The second half says what the analysis sees of a restyled unit.  Fields, types,
  uses and calls are the same; only the table of methods differs, and there every
  method is the restyled one.
-/
import Receiverless.Proofs.Restyling
import Receiverless.Proofs.CallClosure
import Receiverless.Proofs.Keywords
import Receiverless.Pass.Run

namespace Receiverless

/-! ### The run -/

namespace Analysis

/-- How the pass changes modifiers: an eligible method gets the keyword, unless the run is dry. -/
def style (a : Analysis) (s : Settings) : Style := fun d modifiers =>
  if a.isEligible d && !s.dryRun then modifiers.addStatic s.order else modifiers

/-- The entry of the report for a method, if it gets one. -/
def change? (a : Analysis) (s : Settings) (d : Method) : Option Change :=
  if a.isEligible d then d.signature.map (d.change s.order) else none

/-- The hook of the pass writes the entry of a method and changes its modifiers, in this order. -/
theorem visitMethod_eq (a : Analysis) (s : Settings) (d : Method)
    (walk : StateM (List Change) Method) :
    Pass.visitMethod a s d walk =
      (Hooks.noting (fun d => modify (· ++ (a.change? s d).toList)) (a.style s)).method d walk := by
  unfold Pass.visitMethod
  cases helig : a.isEligible d with
  | false =>
    have hnone : (a.change? s d).toList = [] := by simp [change?, helig]
    rw [Hooks.noting_method_of_keep _ (by simp [style, helig])]
    simp only [hnone, List.append_nil, Bool.false_eq_true, if_false]
    rfl
  | true =>
    obtain ⟨σ, hσ, -⟩ := Method.isEligible_iff.mp helig
    cases hdry : s.dryRun with
    | false => simp [style, change?, helig, hσ, hdry, Method.asStatic]
    | true =>
      rw [Hooks.noting_method_of_keep _ (by simp [style, hdry])]
      simp [change?, helig, hσ]

end Analysis

theorem run_forM_modify {α β : Type} (out : α → List β) (xs : List α) (log : List β) :
    (xs.forM fun x => (modify (· ++ out x) : StateM (List β) Unit)).run log =
      ((), log ++ xs.flatMap out) := by
  induction xs generalizing log with
  | nil =>
    rw [List.flatMap_nil, List.append_nil]
    rfl
  | cons x xs ih => simpa using ih (log ++ out x)

/-- A run restyles the unit and reports the eligible methods in the order of the outline. -/
theorem CompilationUnit.run_eq (s : Settings) (u : CompilationUnit) :
    u.run s =
      { unit := u.restyle (u.analysis.style s)
        report :=
          { path := u.path
            dryRun := s.dryRun
            changes := u.outline.methods.filterMap (u.analysis.change? s) } } := by
  have hhooks : ({ method := Pass.visitMethod u.analysis s } : Hooks (StateM (List Change))) =
      .noting (fun d => modify (· ++ (u.analysis.change? s d).toList)) (u.analysis.style s) := by
    unfold Hooks.noting
    congr 1
    funext d walk
    exact u.analysis.visitMethod_eq s d walk
  have hwalk : (u.rebuild { method := Pass.visitMethod u.analysis s }).run [] =
      (u.restyle (u.analysis.style s), u.outline.methods.filterMap (u.analysis.change? s)) := by
    rw [hhooks, CompilationUnit.rebuild_noting, StateT.run_bind, run_forM_modify,
      ← List.filterMap_eq_flatMap_toList]
    rfl
  simp only [CompilationUnit.run, hwalk]
  rfl

def CompilationUnit.reported (s : Settings) (u : CompilationUnit) : List MethodSig :=
  (u.run s).report.changes.map Change.method

theorem CompilationUnit.mem_reported_iff {s : Settings} {u : CompilationUnit} {σ : MethodSig} :
    σ ∈ u.reported s ↔
      ∃ m ∈ u.outline.methods, u.analysis.isEligible m = true ∧ m.signature = some σ := by
  rw [reported, run_eq]
  simp only [List.mem_map, List.mem_filterMap]
  constructor
  · rintro ⟨c, ⟨m, hm, hc⟩, rfl⟩
    unfold Analysis.change? at hc
    split at hc
    · rename_i helig
      obtain ⟨τ, hτ, rfl⟩ := Option.map_eq_some_iff.mp hc
      exact ⟨m, hm, helig, hτ⟩
    · cases hc
  · rintro ⟨m, hm, helig, hσ⟩
    refine ⟨m.change s.order σ, ⟨m, hm, ?_⟩, rfl⟩
    rw [Analysis.change?, if_pos helig, hσ, Option.map_some]

/-- A method is static after the pass if it was static before or is made so. -/
theorem Method.isStatic_restyle_style {a : Analysis} {s : Settings} {m : Method}
    (hs : s.dryRun = false) :
    (m.restyle (a.style s)).isStatic = true ↔ m.isStatic = true ∨ a.isEligible m = true := by
  rw [Method.restyle_eq]
  unfold Method.isStatic Analysis.style
  cases helig : a.isEligible m with
  | true =>
    simp only [hs, Bool.not_false, Bool.and_self, if_true, or_true, iff_true]
    exact Modifiers.has_static_addStatic _ _
  | false => simp

/-! ### What the analysis sees of a restyled unit -/

variable (style : Style)

theorem Method.signature_restyle (d : Method) : (d.restyle style).signature = d.signature := by
  rw [Method.restyle_eq]

namespace ClassDecl

theorem type_restyle (c : ClassDecl) : (c.restyle style).type = c.type := by
  rw [restyle_eq]

theorem instanceFields_restyle (c : ClassDecl) :
    (c.restyle style).instanceFields = c.instanceFields := by
  rw [restyle_eq]
  unfold instanceFields fields
  induction c.members with
  | nil => rfl
  | cons d ds ih =>
    cases d with
    | field f =>
      have hsigs : (f.declarators.map (Declarator.restyle style)).filterMap Declarator.signature =
          f.declarators.filterMap Declarator.signature := by
        rw [List.filterMap_map]
        rfl
      cases hstatic : f.modifiers.has .static with
      | false => simpa [Member.restyle_field, FieldDecl.isStatic, hstatic, hsigs] using ih
      | true => simpa [Member.restyle_field, FieldDecl.isStatic, hstatic] using ih
    | method d => simpa [Member.restyle_method] using ih
    | constructor k => simpa [Member.restyle_constructor] using ih
    | initializer isStatic body span => simpa [Member.restyle_initializer] using ih
    | nested inner => simpa [Member.restyle_nested] using ih

theorem innerNames_restyle (c : ClassDecl) : (c.restyle style).innerNames = c.innerNames := by
  rw [restyle_eq]
  unfold innerNames
  simp only [List.flatMap_map]
  congr 1
  refine List.flatMap_congr fun d _ => ?_
  cases d with
  | nested inner => simp [Member.restyle_nested, restyle_eq]
  | field f => simp [Member.restyle_field]
  | method d => simp [Member.restyle_method]
  | constructor k => simp [Member.restyle_constructor]
  | initializer isStatic body span => simp [Member.restyle_initializer]

end ClassDecl

/-- Inner classes are looked up by the types and the inner classes of the top-level classes. -/
theorem innerNamesOf_map {f : ClassDecl → ClassDecl} (htype : ∀ c, (f c).type = c.type)
    (hinner : ∀ c, (f c).innerNames = c.innerNames) (cs : List ClassDecl) (type : String) :
    innerNamesOf (cs.map f) type = innerNamesOf cs type := by
  unfold innerNamesOf
  rw [List.filter_map, List.getLast?_map]
  simp only [Function.comp_def, htype, hinner]
  cases (cs.filter fun c => c.type == type && !c.innerNames.isEmpty).getLast? with
  | none => rfl
  | some c => exact hinner c

theorem innerNamesOf_restyle (cs : List ClassDecl) (type : String) :
    innerNamesOf (cs.map (ClassDecl.restyle style)) type = innerNamesOf cs type :=
  innerNamesOf_map (ClassDecl.type_restyle style) (ClassDecl.innerNames_restyle style) cs type

/-- What a node marks depends on the fields and the inner classes as sets. -/
theorem Node.marks_congr {ctx ctx' : UsageContext} (hfields : ∀ f, f ∈ ctx'.fields ↔ f ∈ ctx.fields)
    (hinner : ∀ type name, name ∈ innerNamesOf ctx'.classes type ↔
      name ∈ innerNamesOf ctx.classes type) (frames : List Frame) (n : Node) :
    n.marks ctx' frames = n.marks ctx frames := by
  have hisInner : ∀ name, ctx'.isInner frames name = ctx.isInner frames name := by
    intro name
    unfold UsageContext.isInner
    cases Frame.topLevel? frames with
    | none => rfl
    | some top => simp only [hinner]
  unfold Node.marks
  simp only [hfields, hisInner]

theorem Node.marks_restyle (fields : List FieldSig) (cs : List ClassDecl) (frames : List Frame)
    (n : Node) :
    n.marks ⟨fields, cs.map (ClassDecl.restyle style)⟩ frames = n.marks ⟨fields, cs⟩ frames := by
  refine Node.marks_congr (fun f => ?_) (fun type name => ?_) frames n
  · exact Iff.rfl
  · rw [innerNamesOf_restyle]

namespace CompilationUnit

theorem topLevelTypes_restyle (u : CompilationUnit) :
    (u.restyle style).topLevelTypes = u.topLevelTypes := by
  simp [topLevelTypes, restyle, ClassDecl.type_restyle]

theorem instanceFields_restyle (u : CompilationUnit) :
    (u.restyle style).instanceFields = u.instanceFields := by
  simp [instanceFields, restyle, List.flatMap_map, ClassDecl.instanceFields_restyle]

/-- Restyling changes neither the uses of the instance nor the calls on it. -/
theorem usage_restyle (fields : List FieldSig) (u : CompilationUnit) :
    (u.restyle style).usage fields = u.usage fields := by
  have hmarks : ∀ frames n, (Node.restyle style n).marks ⟨fields, u.classes⟩ frames =
      (n.marks ⟨fields, u.classes⟩ frames).map id := by
    intro frames n
    rw [List.map_id]
    cases n <;> rfl
  have hcalls : ∀ frames n, (Node.restyle style n).calls frames = (n.calls frames).map id := by
    intro frames n
    rw [List.map_id]
    cases n <;> rfl
  unfold usage Outline.usage
  simp only [restyle, Node.marks_restyle]
  rw [← restyle, collect_restyle (Node.sparse_marks _) hmarks, List.map_id,
    collect_restyle Node.sparse_calls hcalls, List.map_id]

theorem instanceFields_run {u : CompilationUnit} {s : Settings} :
    (u.run s).unit.instanceFields = u.instanceFields := by
  rw [run_eq, instanceFields_restyle]

theorem topLevelTypes_run {u : CompilationUnit} {s : Settings} :
    (u.run s).unit.topLevelTypes = u.topLevelTypes := by
  rw [run_eq, topLevelTypes_restyle]

theorem usage_run {u : CompilationUnit} {s : Settings} (fields : List FieldSig) :
    (u.run s).unit.usage fields = u.usage fields := by
  rw [run_eq, usage_restyle]

end CompilationUnit

/-! ### The table of methods -/

theorem declaredMethodsOfAll_eq_flatMap (ds : List Member) :
    declaredMethodsOfAll ds = ds.flatMap Member.declaredMethods := by
  induction ds with
  | nil => rfl
  | cons d ds ih => rw [declaredMethodsOfAll, ih, List.flatMap_cons]

mutual

theorem Member.declaredMethods_restyle : ∀ d : Member,
    (d.restyle style).declaredMethods = d.declaredMethods.map (Method.restyle style)
  | .field f => by simp [Member.restyle_field, Member.declaredMethods]
  | .method d => by simp [Member.restyle_method, Member.declaredMethods]
  | .constructor k => by simp [Member.restyle_constructor, Member.declaredMethods]
  | .initializer isStatic body span => by
    simp [Member.restyle_initializer, Member.declaredMethods]
  | .nested ⟨_, _, _, _, _, _, ds, _⟩ => by
    simp [Member.restyle_nested, ClassDecl.restyle_eq, Member.declaredMethods,
      declaredMethodsOfAll_restyle ds]

theorem declaredMethodsOfAll_restyle : ∀ ds : List Member,
    declaredMethodsOfAll (ds.map (Member.restyle style)) =
      (declaredMethodsOfAll ds).map (Method.restyle style)
  | [] => rfl
  | d :: ds => by
    simp [declaredMethodsOfAll, d.declaredMethods_restyle, declaredMethodsOfAll_restyle ds]

end

theorem CompilationUnit.methodTable_restyle (u : CompilationUnit) (σ : MethodSig) :
    (u.restyle style).methodTable σ = (u.methodTable σ).map (Method.restyle style) := by
  have hdeclared : (u.restyle style).declaredMethods =
      u.declaredMethods.map (Method.restyle style) := by
    simp [declaredMethods, restyle, List.flatMap_map, List.map_flatMap, ClassDecl.restyle_eq,
      declaredMethodsOfAll_restyle]
  rw [methodTable, methodTable, hdeclared, MethodTable.ofMethods, MethodTable.ofMethods,
    List.filter_map, List.getLast?_map]
  simp only [Function.comp_def, Method.signature_restyle]

mutual

/-- A declared method is reached through member classes only. -/
theorem Member.reaches_of_mem_declaredMethods {m : Method} : ∀ d : Member,
    m ∈ d.declaredMethods →
      (Part.member d).Reaches (fun p => !p.isMemberClass) (.member (.method m))
  | .method d, h => by
    obtain rfl : m = d := by simpa [Member.declaredMethods] using h
    exact Part.Reaches.refl
  | .nested ⟨_, _, _, _, _, _, ds, _⟩, h => by
    obtain ⟨d, hd, hm⟩ := exists_reaches_of_mem_declaredMethodsOfAll ds h
    exact (Part.Reaches.refl.tail rfl (List.mem_map_of_mem hd)).trans hm

theorem exists_reaches_of_mem_declaredMethodsOfAll {m : Method} : ∀ ds : List Member,
    m ∈ declaredMethodsOfAll ds → ∃ d ∈ ds,
      (Part.member d).Reaches (fun p => !p.isMemberClass) (.member (.method m))
  | d :: ds, h => by
    rcases List.mem_append.mp h with hd | hds
    · exact ⟨d, List.mem_cons_self, d.reaches_of_mem_declaredMethods hd⟩
    · obtain ⟨d', hd', hm⟩ := exists_reaches_of_mem_declaredMethodsOfAll ds hds
      exact ⟨d', List.mem_cons_of_mem _ hd', hm⟩

end

theorem CompilationUnit.exists_reaches_of_mem_declaredMethods {u : CompilationUnit} {m : Method}
    (h : m ∈ u.declaredMethods) : ∃ c ∈ u.classes,
      (Part.member (.nested c)).Reaches (fun p => !p.isMemberClass) (.member (.method m)) := by
  obtain ⟨c, hc, hm⟩ := List.mem_flatMap.mp h
  obtain ⟨d, hd, hreaches⟩ := exists_reaches_of_mem_declaredMethodsOfAll c.members hm
  exact ⟨c, hc, (Part.Reaches.refl.tail rfl (List.mem_map_of_mem hd)).trans hreaches⟩

/-- What the table gives is declared in the unit, under the signature it is looked up by. -/
theorem CompilationUnit.mem_methods_of_methodTable {u : CompilationUnit} {σ : MethodSig}
    {m : Method} (h : u.methodTable σ = some m) : m ∈ u.outline.methods ∧ m.signature = some σ := by
  obtain ⟨hdeclared, hσ⟩ := MethodTable.ofMethods_eq_some h
  obtain ⟨c, hc, hreaches⟩ := exists_reaches_of_mem_declaredMethods hdeclared
  refine ⟨?_, hσ⟩
  rw [methods_outline]
  exact List.mem_flatMap.mpr ⟨c, hc, (Part.mem_methods_iff m _).mpr hreaches.holds⟩

/-- A callee that needs no instance by the analysis has none after the run. -/
theorem CompilationUnit.static_after_run {u : CompilationUnit} {s : Settings} {σ : MethodSig}
    (hs : s.dryRun = false)
    (h : u.methodTable.needsNoInstance u.topLevelTypes u.analysis.usage σ = true) :
    ∃ m, (u.run s).unit.methodTable σ = some m ∧ m.isStatic = true := by
  obtain ⟨m, hm, hnone⟩ := MethodTable.needsNoInstance_iff.mp h
  refine ⟨m.restyle (u.analysis.style s), ?_, (Method.isStatic_restyle_style hs).mpr hnone⟩
  rw [run_eq, methodTable_restyle, hm, Option.map_some]

end Receiverless
