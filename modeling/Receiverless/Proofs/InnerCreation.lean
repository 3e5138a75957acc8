/-
  Receiverless/Proofs/InnerCreation.lean
  ======================================
  **Creating inner classes.**  An object of an inner class has an outer instance,
  and a method that creates one hands its own instance over.  Such a method
  cannot be static, however the type is written in the creation.

  The pass tells inner classes by comparing whole texts: the type in the creation
  has to be the simple or the qualified name of the class.  Written so, a creation
  keeps its method from being made static, at any depth outside of member classes
  (`run_keeps_creators`).  A type with arguments is kept as it is written, with the
  arguments, and is no such text; the creation is not seen, and the method is made
  static (`hive_creator_made_static`).
-/
import Receiverless.Proofs.UsageLaws
import Receiverless.Proofs.InnerMethods
import Receiverless.Proofs.StaticCalls

namespace Receiverless

/-! ### Creations apart from other uses -/

/-- The body creates an object of an inner class, or refers to its constructor, outside of the
    member classes in it. -/
def Method.Creates (isInner : String → Prop) (d : Method) : Prop :=
  ∃ e, (Part.member (.method d)).Reaches Part.isMemberClass (.expr e) ∧ e.CreatesInner isInner

section Apart

variable {fields : List FieldSig} (isInner : String → Prop)

theorem Expr.not_createsInner_false (e : Expr) : ¬ e.CreatesInner fun _ => False := by
  cases e with
  | create type args body span => exact id
  | methodRef target method span =>
    rintro ⟨-, n, -, h⟩
    exact h
  | _ => exact id

theorem Expr.usesEnclosing_iff_creates (e : Expr) :
    e.UsesEnclosing fields isInner ↔
      e.UsesEnclosing fields (fun _ => False) ∨ e.CreatesInner isInner := by
  unfold UsesEnclosing
  simp only [e.not_createsInner_false, or_false, or_assoc]

theorem Method.usesInstance_iff_creates (d : Method) :
    d.UsesInstance fields isInner ↔
      d.UsesInstance fields (fun _ => False) ∨ d.Creates isInner := by
  unfold UsesInstance Creates
  simp only [Expr.usesEnclosing_iff_creates isInner, and_or_left, exists_or]
  exact or_right_comm

end Apart

/-- A type written as the simple name of the class, or as that with type arguments. -/
def ClassDecl.WrittenAs (c : ClassDecl) (text : String) : Prop :=
  text = c.name ∨ ∃ args, text = c.name ++ "<" ++ args ++ ">"

/-- If no inner class has an angle bracket in its names, a text with type arguments is the name of
    none. -/
theorem ClassDecl.not_hasInner_arguments {c : ClassDecl}
    (hnames : ∀ name, c.HasInner name → '<' ∉ name.toList) (name args : String) :
    ¬ c.HasInner (name ++ "<" ++ args ++ ">") := by
  intro hinner
  apply hnames _ hinner
  simp

namespace CompilationUnit

variable {u : CompilationUnit} {c : ClassDecl} {m : Method} {σ : MethodSig}

theorem mem_methods_iff_creates (hdistinct : u.topLevelTypes.Nodup) (fields : List FieldSig) :
    σ ∈ (u.usage fields).methods ↔
      ∃ c ∈ u.classes, ∃ d, (Part.member (.nested c)).Holds (.member (.method d)) ∧
        d.signature = some σ ∧
          (d.UsesInstance fields (fun _ => False) ∨ d.Creates c.HasInner) := by
  have hnames : ∀ c : ClassDecl, (fun name => name ∈ c.innerNames) = c.HasInner := by
    intro c
    funext name
    exact propext ClassDecl.mem_innerNames_iff
  rw [mem_methods_iff_class hdistinct]
  refine exists_congr fun c => and_congr_right fun _ => ?_
  rw [ClassDecl.mem_methods_iff, hnames]
  simp only [← Method.usesInstance_iff_creates]

theorem mem_usage_of_creates (hdistinct : u.topLevelTypes.Nodup) (hc : c ∈ u.classes)
    (hm : (Part.member (.nested c)).Holds (.member (.method m))) (hσ : m.signature = some σ)
    (hcreates : m.Creates c.HasInner) : σ ∈ u.analysis.usage := by
  apply subset_callClosure
  exact (mem_methods_iff_creates hdistinct _).mpr ⟨c, hc, m, hm, hσ, Or.inr hcreates⟩

/-- **Creations by name keep the instance.**  A method that creates an inner class of its top-level
    class, written as the simple or qualified name, has the same modifiers after a run and is not
    reported.  Besides the other uses of the instance it is only these creations that mark a method;
    with names as they are in programs, none of them is written with type arguments. -/
theorem run_keeps_creators (s : Settings) (u : CompilationUnit)
    (hdistinct : u.topLevelTypes.Nodup) :
    (∀ i path c m m', u.classes[i]? = some c → u.methodAt? (i :: path) = some m →
        (u.run s).unit.methodAt? (i :: path) = some m' → m.Creates c.HasInner →
        m'.modifiers = m.modifiers ∧ ∀ σ, m.signature = some σ → σ ∉ u.reported s) ∧
      (∀ σ, σ ∈ (u.usage u.instanceFields).methods ↔
        ∃ c ∈ u.classes, ∃ d, (Part.member (.nested c)).Holds (.member (.method d)) ∧
          d.signature = some σ ∧
            (d.UsesInstance u.instanceFields (fun _ => False) ∨ d.Creates c.HasInner)) ∧
      ∀ c ∈ u.classes, (∀ name, c.HasInner name → '<' ∉ name.toList) →
        ∀ name args, ¬ c.HasInner (name ++ "<" ++ args ++ ">") := by
  refine ⟨?_, ?_, ?_⟩
  · intro i path c m m' hc hm hm' hcreates
    have hused : ∀ σ, m.signature = some σ → σ ∈ u.analysis.usage := by
      intro σ hσ
      exact mem_usage_of_creates hdistinct (List.mem_of_getElem? hc) (holds_of_methodAt? hc hm) hσ
        hcreates
    have helig : u.analysis.isEligible m = false :=
      Method.isEligible_eq_false fun σ hσ => Or.inl (hused σ hσ)
    constructor
    · obtain rfl := eq_restyle_of_methodAt? hm hm'
      rw [Method.restyle_eq]
      simp [Analysis.style, helig]
    · intro σ hσ hreported
      exact notMem_usage_of_mem_reported hreported (hused σ hσ)
  · intro σ
    exact mem_methods_iff_creates hdistinct _
  · intro c _ hnames name args
    exact ClassDecl.not_hasInner_arguments hnames name args

/-! ### A creation that is not seen -/

/-- Of the methods of top-level classes, a run makes none static that creates, outside of other
    class bodies, an inner class of its class, however the type is written. -/
def KeepsCreators (s : Settings) (u : CompilationUnit) : Prop :=
  ∀ i j c inner m m' e, u.classes[i]? = some c → c.kind ≠ .interface →
    .nested inner ∈ c.members → inner.kind = .class → inner.modifiers.has .static = false →
    u.methodAt? [i, j] = some m → (u.run s).unit.methodAt? [i, j] = some m' →
    (Part.member (.method m)).Reaches Part.isClassBody (.expr e) →
    e.CreatesInner inner.WrittenAs → m.isStatic = false → m'.isStatic = false

/-- `private Object name() { return new type(); }` -/
def hiveMethod (keywords : List Keyword) (name type : String) : Method :=
  MethodDraft.declareIn "Hive"
    { keywords, result := "Object", name, body := some [.ret (some (.creation type []))] }

/-- `class Hive { class Cell {} private Object build() { return new Cell(); }
    private Object fill() { return new Cell<Honey>(); } }` -/
def hive : CompilationUnit where
  classes := [ClassDraft.declare ⟨[], .class, "Hive", none, none, [], [
    .nested ⟨[], .class, "Cell", none, none, [], []⟩,
    .ready (.method (hiveMethod [.private] "build" "Cell")),
    .ready (.method (hiveMethod [.private] "fill" "Cell<Honey>"))]⟩]

theorem hiveMethod_reaches (closed : Part → Bool) (keywords : List Keyword) (name type : String)
    (hmethod : closed (.member (.method (hiveMethod keywords name type))) = false)
    (hreturn : closed (.stmt (.ret (some (.creation type [])))) = false) :
    (Part.member (.method (hiveMethod keywords name type))).Reaches closed
      (.expr (.creation type [])) := by
  have hstmt : (Part.member (.method (hiveMethod keywords name type))).Reaches closed
      (.stmt (.ret (some (.creation type [])))) :=
    Part.Reaches.refl.tail hmethod List.mem_cons_self
  exact hstmt.tail hreturn List.mem_cons_self

/-- `build`, which creates a cell by its name, stays as it is; what `fill` writes is no name. -/
theorem hive_keeps_build :
    hive.topLevelTypes.Nodup ∧
      hive.methodAt? [0, 1] = some (hiveMethod [.private] "build" "Cell") ∧
      (∀ c ∈ hive.classes, (hiveMethod [.private] "build" "Cell").Creates c.HasInner) ∧
      (∀ m', (hive.run {}).unit.methodAt? [0, 1] = some m' →
        m'.modifiers = (hiveMethod [.private] "build" "Cell").modifiers) ∧
      ∀ c ∈ hive.classes, (∀ name, c.HasInner name → '<' ∉ name.toList) ∧
        ¬ c.HasInner "Cell<Honey>" := by
  have hdistinct : hive.topLevelTypes.Nodup := by decide
  have hcell : ∀ c ∈ hive.classes, "Cell" ∈ c.innerNames := by decide
  have hplain : ∀ c ∈ hive.classes, ∀ name ∈ c.innerNames, '<' ∉ name.toList := by decide
  obtain ⟨hkeep, -, hargs⟩ := run_keeps_creators {} hive hdistinct
  have hcreates : ∀ c ∈ hive.classes,
      (hiveMethod [.private] "build" "Cell").Creates c.HasInner := by
    intro c hc
    refine ⟨_, hiveMethod_reaches _ _ _ _ rfl rfl, ?_⟩
    exact ClassDecl.mem_innerNames_iff.mp (hcell c hc)
  refine ⟨hdistinct, rfl, hcreates, ?_, ?_⟩
  · intro m' hm'
    exact (hkeep 0 [1] _ _ m' rfl rfl hm' (hcreates _ List.mem_cons_self)).1
  · intro c hc
    have hnames : ∀ name, c.HasInner name → '<' ∉ name.toList := by
      intro name hname
      exact hplain c hc name (ClassDecl.mem_innerNames_iff.mpr hname)
    exact ⟨hnames, hargs c hc hnames "Cell" "Honey"⟩

/-- `fill`, which creates one with type arguments, is made static. -/
theorem hive_creator_made_static : ¬ hive.KeepsCreators {} := by
  intro h
  have hstatic := h 0 2 _ _ (hiveMethod [.private] "fill" "Cell<Honey>")
    (hiveMethod [.private, .static] "fill" "Cell<Honey>") (.creation "Cell<Honey>" []) rfl
    (by decide) List.mem_cons_self rfl rfl rfl rfl (hiveMethod_reaches _ _ _ _ rfl rfl)
    (Or.inr ⟨"Honey", rfl⟩) rfl
  revert hstatic
  decide

end CompilationUnit

end Receiverless
