/-
  Receiverless/Proofs/Overrides.lean
  ==================================
  **Overriding is not looked at.**  A method that is `private` or `final` cannot
  be overridden, and so may be made static without a change of dispatch below
  its class.  It may still override a method above its class.  The pass does not
  ask: the superclass and the interfaces of a class play no part in a run
  (`run_ignores_supertypes`), and a `final` method that overrides another one is
  made static like any other, although a static method overrides nothing
  (`savings_override_made_static`).
-/
import Receiverless.Proofs.Blanking

namespace Receiverless

/-! ### Units without supertypes -/

def ClassDecl.withoutSupertypes (c : ClassDecl) : ClassDecl :=
  { c with superclass := none, interfaces := [] }

namespace CompilationUnit

/-- The unit with the superclass and the interfaces of all top-level classes left out. -/
def withoutSupertypes (u : CompilationUnit) : CompilationUnit :=
  { u with classes := u.classes.map ClassDecl.withoutSupertypes }

variable (u : CompilationUnit)

theorem flatMap_withoutSupertypes {α : Type} {f : ClassDecl → List α}
    (hf : ∀ c : ClassDecl, f c.withoutSupertypes = f c) :
    u.withoutSupertypes.classes.flatMap f = u.classes.flatMap f := by
  rw [withoutSupertypes, List.flatMap_map]
  apply List.flatMap_congr
  intro c _
  exact hf c

theorem collect_withoutSupertypes {α : Type} {f : List Frame → Node → List α} (hf : Thin f)
    (frames : List Frame) :
    u.withoutSupertypes.outline.collect f frames = u.outline.collect f frames := by
  rw [hf.collect_unit, hf.collect_unit]
  apply flatMap_withoutSupertypes
  intro c
  rw [hf.collect_nested, hf.collect_nested, hf.collect_classDecl, hf.collect_classDecl]
  rfl

theorem methods_withoutSupertypes : u.withoutSupertypes.outline.methods = u.outline.methods := by
  rw [methods_outline, methods_outline]
  apply flatMap_withoutSupertypes
  intro c
  rw [Part.methods_nested, Part.methods_nested]
  rfl

theorem usage_withoutSupertypes (fields : List FieldSig) :
    u.withoutSupertypes.usage fields = u.usage fields := by
  have hmarks : (fun frames (n : Node) => n.marks ⟨fields, u.withoutSupertypes.classes⟩ frames) =
      fun frames n => n.marks ⟨fields, u.classes⟩ frames := by
    funext frames n
    apply Node.marks_congr
    · intro f
      exact Iff.rfl
    · intro type name
      have hnames : innerNamesOf u.withoutSupertypes.classes type = innerNamesOf u.classes type :=
        innerNamesOf_map (f := ClassDecl.withoutSupertypes) (fun _ => rfl) (fun _ => rfl) _ _
      rw [hnames]
  unfold usage Outline.usage
  rw [hmarks, u.collect_withoutSupertypes (Node.sparse_marks _).toThin,
    u.collect_withoutSupertypes Node.sparse_calls.toThin]

theorem analysis_withoutSupertypes : u.withoutSupertypes.analysis = u.analysis := by
  have hfields : u.withoutSupertypes.instanceFields = u.instanceFields :=
    u.flatMap_withoutSupertypes fun _ => rfl
  have htypes : u.withoutSupertypes.topLevelTypes = u.topLevelTypes := by
    rw [topLevelTypes, withoutSupertypes, List.map_map]
    rfl
  have hdeclared : u.withoutSupertypes.declaredMethods = u.declaredMethods :=
    u.flatMap_withoutSupertypes fun _ => rfl
  unfold analysis methodTable
  rw [hfields, htypes, hdeclared]
  simp only [usage_withoutSupertypes]

theorem restyle_withoutSupertypes (style : Style) :
    u.withoutSupertypes.restyle style = (u.restyle style).withoutSupertypes := by
  have hclass : ∀ c : ClassDecl,
      c.withoutSupertypes.restyle style = (c.restyle style).withoutSupertypes := by
    intro c
    rw [ClassDecl.restyle_eq, ClassDecl.restyle_eq]
    rfl
  simp only [restyle, withoutSupertypes, List.map_map, Function.comp_def, hclass]

/-! ### What decides instead -/

theorem isEligible_iff_declared {m : Method} (hstatic : m.isStatic = false) :
    u.analysis.isEligible m = true ↔
      (m.modifiers.has .private = true ∨ m.modifiers.has .final = true) ∧
        m.body.isSome = true ∧ m.modifiers.has .abstract = false ∧
        ∃ σ, m.signature = some σ ∧ σ.owner ∈ u.topLevelTypes ∧ σ ∉ u.analysis.usage := by
  rw [Analysis.isEligible, Method.isEligible_iff]
  simp only [Method.isFixed, Method.isAbstract, Bool.or_eq_true, Bool.or_eq_false_iff,
    Option.isNone_eq_false_iff]
  constructor
  · rintro ⟨σ, hσ, hused, -, hfixed, ⟨habstract, hbody⟩, howner⟩
    exact ⟨hfixed, hbody, habstract, σ, hσ, howner, hused⟩
  · rintro ⟨hfixed, hbody, habstract, σ, hσ, howner, hused⟩
    exact ⟨σ, hσ, hused, hstatic, hfixed, ⟨habstract, hbody⟩, howner⟩

/-- **Supertypes play no part in a run.**  Without the superclasses and interfaces of its classes a
    unit gives the same changes, and the same result but for these; a method is made static exactly
    if it is private or final, has a body, is resolved in a top-level type and does not need the
    instance, whether it overrides another method or not. -/
theorem run_ignores_supertypes (s : Settings) (u : CompilationUnit) :
    (u.withoutSupertypes.run s).report.changes = (u.run s).report.changes ∧
      (u.withoutSupertypes.run s).unit = (u.run s).unit.withoutSupertypes ∧
      (s.dryRun = false → ∀ path m m', u.methodAt? path = some m →
        (u.run s).unit.methodAt? path = some m' → m.isStatic = false →
        (m'.isStatic = true ↔
          (m.modifiers.has .private = true ∨ m.modifiers.has .final = true) ∧
            m.body.isSome = true ∧ m.modifiers.has .abstract = false ∧
            ∃ σ, m.signature = some σ ∧ σ.owner ∈ u.topLevelTypes ∧ σ ∉ u.analysis.usage)) := by
  refine ⟨?_, ?_, ?_⟩
  · rw [run_eq, run_eq, analysis_withoutSupertypes, methods_withoutSupertypes]
  · rw [run_eq, run_eq, analysis_withoutSupertypes]
    exact u.restyle_withoutSupertypes _
  · intro hs path m m' hm hm' hstatic
    obtain rfl := eq_restyle_of_methodAt? hm hm'
    rw [← u.isEligible_iff_declared hstatic, Method.isStatic_restyle_style hs, hstatic]
    simp

/-! ### An override that is lost -/

/-- A method of `c` overrides or implements a method of the unit: a clause of `c` gives the simple
    name of another class or interface, which directly declares a method with the same name and
    parameter types that is neither static nor private. -/
def Overrides (u : CompilationUnit) (c : ClassDecl) (m : Method) : Prop :=
  ∃ top ∈ u.classes, ∃ d, (Part.member (.nested top)).Holds (.member (.nested d)) ∧ d ≠ c ∧
    (c.superclass = some d.name ∨ d.name ∈ c.interfaces) ∧
    ∃ n ∈ d.methods, n.isStatic = false ∧ n.modifiers.has .private = false ∧ n.name = m.name ∧
      n.params.map Param.type = m.params.map Param.type

/-- Of the methods of top-level classes, a run makes none static that overrides another one. -/
def KeepsOverrides (s : Settings) (u : CompilationUnit) : Prop :=
  ∀ i j c m m', u.classes[i]? = some c → u.methodAt? [i, j] = some m →
    (u.run s).unit.methodAt? [i, j] = some m' → u.Overrides c m → m.isStatic = false →
    m'.isStatic = false

def feeMethod (owner : String) (keywords : List Keyword) : Method :=
  MethodDraft.declareIn owner
    { keywords, result := "int", name := "fee", body := some [.ret (some (.literal (.int 0)))] }

/-- `class Account { int fee() { return 0; } }` -/
def account : ClassDecl :=
  ClassDraft.declare ⟨[], .class, "Account", none, none, [],
    [.ready (.method (feeMethod "Account" []))]⟩

/-- `class Savings extends Account { final int fee() { return 0; } }`, after `Account` -/
def savings : CompilationUnit where
  classes := [account, ClassDraft.declare ⟨[], .class, "Savings", none, some "Account", [],
    [.ready (.method (feeMethod "Savings" [.final]))]⟩]

theorem savings_ignores_supertypes :
    savings.methodAt? [1, 0] = some (feeMethod "Savings" [.final]) ∧
      (feeMethod "Savings" [.final]).isStatic = false ∧
      (savings.withoutSupertypes.run {}).report.changes = (savings.run {}).report.changes ∧
      ∃ m', (savings.run {}).unit.methodAt? [1, 0] = some m' ∧ m'.isStatic = true := by
  obtain ⟨hchanges, -, hiff⟩ := run_ignores_supertypes {} savings
  refine ⟨rfl, rfl, hchanges, feeMethod "Savings" [.static, .final], rfl, ?_⟩
  apply (hiff rfl [1, 0] (feeMethod "Savings" [.final]) _ rfl rfl rfl).mpr
  exact ⟨Or.inr rfl, rfl, rfl, _, rfl, by decide, by decide⟩

/-- The method of `Savings` overrides the one of `Account` and is made static. -/
theorem savings_override_made_static : ¬ savings.KeepsOverrides {} := by
  intro h
  have hoverrides : savings.Overrides (savings.classes.get ⟨1, by decide⟩)
      (feeMethod "Savings" [.final]) := by
    refine ⟨account, List.mem_cons_self, account, Part.Reaches.refl, ?_, Or.inl rfl, ?_⟩
    · intro heq
      have hname := congrArg ClassDecl.name heq
      revert hname
      decide
    · exact ⟨feeMethod "Account" [], List.mem_cons_self, rfl, rfl, rfl, rfl⟩
  have hkept := h 1 0 _ _ (feeMethod "Savings" [.static, .final]) rfl rfl rfl hoverrides rfl
  revert hkept
  decide

end CompilationUnit

end Receiverless
