/-
  Receiverless/Proofs/UsageLaws.lean
  ==================================
  **How the analysis adds up.**  The analysis of a unit walks over all of its
  classes with one table of inner classes and one set of fields.  Two laws say
  that neither mixes what should stay apart.

    * Classes do not see each other: a unit uses the instance where one of its
      classes does, and its calls are those of its classes, one class after the
      other (`CompilationUnit.usage_eq_classes`).  For this the top-level types
      have to be distinct, as inner classes are looked up by the type around them.
    * Fields do not see each other: what a set of fields marks is what its parts
      mark, and calls do not depend on fields (`Scope.usage_union`).
-/
import Receiverless.Proofs.Attribution

namespace Receiverless

/-! ### Class by class -/

/-- Alone, a class finds its own inner classes, whatever its type is. -/
theorem ClassDecl.mem_methods_iff {fields : List FieldSig} {c : ClassDecl} {σ : MethodSig} :
    σ ∈ (c.usage fields).methods ↔
      ∃ d, (Part.member (.nested c)).Holds (.member (.method d)) ∧ d.signature = some σ ∧
        d.UsesInstance fields (· ∈ c.innerNames) := by
  have hnames : innerNamesOf [c] c.type = c.innerNames :=
    innerNamesOf_eq (List.nodup_singleton _) List.mem_cons_self
  change σ ∈ ((Scope.single c).usage fields).methods ↔ _
  rw [Scope.mem_methods_iff, Scope.classes]
  constructor
  · rintro ⟨x, hx, hd⟩
    obtain rfl := List.mem_singleton.mp hx
    rwa [hnames] at hd
  · intro hd
    refine ⟨c, List.mem_cons_self, ?_⟩
    rwa [hnames]

namespace CompilationUnit

theorem mem_methods_iff_class {fields : List FieldSig} {u : CompilationUnit}
    (hdistinct : u.topLevelTypes.Nodup) {σ : MethodSig} :
    σ ∈ (u.usage fields).methods ↔ ∃ c ∈ u.classes, σ ∈ (c.usage fields).methods := by
  change σ ∈ ((Scope.unit u).usage fields).methods ↔ _
  rw [Scope.mem_methods_iff, Scope.classes]
  refine exists_congr fun c => and_congr_right fun hc => ?_
  rw [ClassDecl.mem_methods_iff, innerNamesOf_eq hdistinct hc]

theorem calls_usage (fields : List FieldSig) (u : CompilationUnit) :
    (u.usage fields).calls = u.classes.flatMap fun c => (c.usage fields).calls := by
  have hwalk := Node.sparse_calls.collect_unit [] u
  simp only [Node.sparse_calls.collect_nested] at hwalk
  exact hwalk

/-- **The analysis goes class by class.**  If the top-level types are distinct, a unit uses the
    instance where one of its classes, analysed alone, does; and its calls are those of the classes
    in their order. -/
theorem usage_eq_classes (fields : List FieldSig) (u : CompilationUnit)
    (hdistinct : u.topLevelTypes.Nodup) :
    (∀ σ, σ ∈ (u.usage fields).methods ↔ ∃ c ∈ u.classes, σ ∈ (c.usage fields).methods) ∧
      (u.usage fields).calls = u.classes.flatMap fun c => (c.usage fields).calls := by
  refine ⟨?_, calls_usage fields u⟩
  intro σ
  exact mem_methods_iff_class hdistinct

/-- `class C { class Part {} Object make() { pack(); return new Part(); } }`, with more keywords for
    `Part` -/
def workshop (type : String) (keywords : List Keyword) : ClassDecl :=
  ClassDraft.declare ⟨[], .class, type, none, none, [], [
    .nested ⟨keywords, .class, "Part", none, none, [], []⟩,
    .method
      { result := "Object", name := "make"
        body := some [.eval (.resolvedCall none ⟨⟨type, "pack", [], "void"⟩, false⟩ []),
          .ret (some (.creation "Part" []))] }]⟩

def workshops : CompilationUnit where
  classes := [workshop "Forge" [], workshop "Mill" [.static]]

/-- The part is an inner class in `Forge` and a static one in `Mill`, and both have the same simple
    name; only `Forge` needs its instance to make one. -/
theorem workshops_usage :
    let make (type : String) : MethodSig := ⟨type, "make", [], "Object"⟩
    let pack (type : String) : MethodSig := ⟨type, "pack", [], "void"⟩
    workshops.topLevelTypes.Nodup ∧
      make "Forge" ∈ (workshops.usage []).methods ∧ make "Mill" ∉ (workshops.usage []).methods ∧
      (workshops.usage []).calls =
        [⟨make "Forge", pack "Forge"⟩, ⟨make "Mill", pack "Mill"⟩] := by
  have hdistinct : workshops.topLevelTypes.Nodup := by decide
  obtain ⟨hmethods, hcalls⟩ := usage_eq_classes [] workshops hdistinct
  refine ⟨hdistinct, ?_, ?_, ?_⟩
  · exact (hmethods _).mpr ⟨workshop "Forge" [], List.mem_cons_self, by decide⟩
  · intro hmill
    have hnone : ∀ c ∈ workshops.classes,
        (⟨"Mill", "make", [], "Object"⟩ : MethodSig) ∉ (c.usage []).methods := by decide
    obtain ⟨c, hc, hin⟩ := (hmethods _).mp hmill
    exact hnone c hc hin
  · rw [hcalls]
    decide

-- of two classes with one type the last one decides what is an inner class, for both of them
example :
    let nested (name : String) : MemberDraft := .nested ⟨[], .class, name, none, none, [], []⟩
    let declare (members : List MemberDraft) : ClassDecl :=
      ClassDraft.declare ⟨[], .class, "Forge", none, none, [], members⟩
    let make : MemberDraft :=
      .method { result := "Object", name := "make", body := some [.eval (.creation "Part" [])] }
    let u : CompilationUnit :=
      { classes := [declare [nested "Part", make], declare [nested "Lid"]] }
    (u.usage []).methods = [] ∧
      u.classes.map (fun c => (c.usage []).methods) = [[⟨"Forge", "make", [], "Object"⟩], []] := by
  decide

end CompilationUnit

/-! ### Field by field -/

section Union

variable {I J K : List FieldSig} {isInner : String → Prop}

theorem Expr.readsField_union (hK : ∀ f, f ∈ K ↔ f ∈ I ∨ f ∈ J) (e : Expr) :
    e.ReadsField K ↔ e.ReadsField I ∨ e.ReadsField J := by
  cases e with
  | name n => simp only [ReadsField, hK, or_and_right, exists_or]
  | access target n span => simp only [ReadsField, hK, or_and_right, exists_or, and_or_left]
  | _ => exact (or_self_iff).symm

theorem Expr.usesEnclosing_union (hK : ∀ f, f ∈ K ↔ f ∈ I ∨ f ∈ J) (e : Expr) :
    e.UsesEnclosing K isInner ↔ e.UsesEnclosing I isInner ∨ e.UsesEnclosing J isInner := by
  unfold UsesEnclosing
  rw [readsField_union hK, or_or_distrib_right]

theorem Method.usesInstance_union (hK : ∀ f, f ∈ K ↔ f ∈ I ∨ f ∈ J) (d : Method) :
    d.UsesInstance K isInner ↔ d.UsesInstance I isInner ∨ d.UsesInstance J isInner := by
  unfold UsesInstance
  simp only [Expr.usesEnclosing_union hK, and_or_left, exists_or]
  exact or_or_distrib_right

end Union

namespace Scope

theorem mem_methods_union {I J K : List FieldSig} (hK : ∀ f, f ∈ K ↔ f ∈ I ∨ f ∈ J) (scope : Scope)
    (σ : MethodSig) :
    σ ∈ (scope.usage K).methods ↔ σ ∈ (scope.usage I).methods ∨ σ ∈ (scope.usage J).methods := by
  simp only [mem_methods_iff, Method.usesInstance_union hK, and_or_left, exists_or]

/-- **The analysis adds up over fields.**  A union of two field sets marks what either of them
    marks, and the calls are the same for all field sets; so more fields can only mark more
    methods. -/
theorem usage_union (scope : Scope) (I J : List FieldSig) :
    (∀ K, (∀ f, f ∈ K ↔ f ∈ I ∨ f ∈ J) → ∀ σ, σ ∈ (scope.usage K).methods ↔
        σ ∈ (scope.usage I).methods ∨ σ ∈ (scope.usage J).methods) ∧
      (scope.usage I).calls = (scope.usage J).calls ∧
      (I ⊆ J → (scope.usage I).methods ⊆ (scope.usage J).methods) := by
  refine ⟨?_, ?_, ?_⟩
  · intro K hK σ
    exact mem_methods_union hK scope σ
  · rw [usage_eq, usage_eq]
    rfl
  · intro hsub σ hσ
    have hJ : ∀ f, f ∈ J ↔ f ∈ I ∨ f ∈ J := fun f => ⟨Or.inr, fun h => h.elim (@hsub f) id⟩
    exact (mem_methods_union hJ scope σ).mpr (Or.inl hσ)

def scaleField (name : String) : FieldSig := ⟨"Scale", name, "int"⟩

def scaleSig (name : String) : MethodSig := ⟨"Scale", name, [], "int"⟩

/-- A class with two fields, a method that reads each of them, one that reads both and one that
    names the instance. -/
def scale : ClassDecl :=
  let reads (name : String) : Stmt := .eval (.fieldName name (scaleField name))
  let method (name : String) (body : List Stmt) : MemberDraft :=
    .method { result := "int", name, body := some body }
  ClassDraft.declare ⟨[], .class, "Scale", none, none, [], [
    .field (.named "int" "gross"), .field (.named "int" "tare"),
    method "weigh" [reads "gross"],
    method "reset" [reads "tare"],
    method "net" [reads "gross", reads "tare"],
    method "self" [.ret (some .current)]]⟩

theorem scale_usage_union :
    let gross := [scaleField "gross"]
    let tare := [scaleField "tare"]
    let both := [scaleField "tare", scaleField "gross"]
    let methods (fields : List FieldSig) := ((single scale).usage fields).methods
    (∀ f, f ∈ both ↔ f ∈ gross ∨ f ∈ tare) ∧
      scaleSig "weigh" ∉ methods tare ∧ scaleSig "weigh" ∈ methods both ∧
      scaleSig "reset" ∉ methods gross ∧ scaleSig "reset" ∈ methods both ∧
      gross ⊆ both ∧ methods gross ⊆ methods both := by
  have hboth : ∀ f, f ∈ [scaleField "tare", scaleField "gross"] ↔
      f ∈ [scaleField "gross"] ∨ f ∈ [scaleField "tare"] := by
    intro f
    rw [List.mem_cons, List.mem_singleton, List.mem_singleton]
    exact or_comm
  have hunion := (usage_union (.single scale) [scaleField "gross"] [scaleField "tare"]).1 _ hboth
  have hsub : [scaleField "gross"] ⊆ [scaleField "tare", scaleField "gross"] := by decide
  have hmore := (usage_union (.single scale) [scaleField "gross"]
    [scaleField "tare", scaleField "gross"]).2.2 hsub
  refine ⟨hboth, by decide, ?_, by decide, ?_, hsub, hmore⟩
  · exact (hunion _).mpr (Or.inl (by decide))
  · exact (hunion _).mpr (Or.inr (by decide))

end Scope

end Receiverless
