/-
  Receiverless/Proofs/SecondRun.lean
  ==================================
  **A second run finds nothing to do.**  The unit that comes out of a run has
  the same fields, types, uses and calls as the one that went in, but a different
  table of methods: the methods made static are static in it.  So the closure
  over calls is computed from other data, and it has to be shown that it comes
  out the same.

  Both inclusions use that the closure is the least closed set.  The old usage
  set is closed for the new table, because a method made static needs no
  instance.  The new one is closed for the old table, because a method that is
  static only now was eligible under the old set, and so is eligible under every
  smaller one.
-/
import Receiverless.Proofs.PassRun
import Receiverless.Draft.Shorthand

namespace Receiverless

namespace CompilationUnit

variable {u : CompilationUnit} {s : Settings}

/-! ### The usage set after a run -/

/-- A method that is eligible after a run is one that the run left alone. -/
theorem isEligible_of_isEligible_restyle {a : Analysis} {m : Method} {usage : List MethodSig}
    {topLevel : List String} (hs : s.dryRun = false)
    (h : (m.restyle (a.style s)).isEligible usage topLevel = true) :
    a.isEligible m = false ∧ m.isEligible usage topLevel = true := by
  obtain ⟨σ, hσ, hused, hstatic, hfixed, habstract, howner⟩ := Method.isEligible_iff.mp h
  have hleft : ¬ (m.isStatic = true ∨ a.isEligible m = true) := by
    rw [← Method.isStatic_restyle_style hs, hstatic]
    exact Bool.false_ne_true
  rw [not_or, Bool.not_eq_true, Bool.not_eq_true] at hleft
  have hstyle : a.style s m m.modifiers = m.modifiers := by simp [Analysis.style, hleft.2]
  rw [Method.restyle_eq, hstyle] at hσ hfixed habstract
  refine ⟨hleft.2, Method.isEligible_iff.mpr ⟨σ, hσ, hused, hleft.1, hfixed, ?_, howner⟩⟩
  simpa [Method.isAbstract] using habstract

theorem needsNoInstance_run (hs : s.dryRun = false) {callee : MethodSig}
    (h : u.methodTable.needsNoInstance u.topLevelTypes u.analysis.usage callee = true) :
    (u.run s).unit.methodTable.needsNoInstance u.topLevelTypes u.analysis.usage callee = true := by
  obtain ⟨m, hm, hstatic⟩ := static_after_run hs h
  exact MethodTable.needsNoInstance_iff.mpr ⟨m, hm, Or.inl hstatic⟩

/-- What needs no instance after the run, judged against a smaller usage set, needs none before it
    against that set. -/
theorem needsNoInstance_of_run (hs : s.dryRun = false) {usage : List MethodSig}
    (hsub : usage ⊆ u.analysis.usage) {callee : MethodSig}
    (h : (u.run s).unit.methodTable.needsNoInstance u.topLevelTypes usage callee = true) :
    u.methodTable.needsNoInstance u.topLevelTypes usage callee = true := by
  obtain ⟨m', hm', hnone⟩ := MethodTable.needsNoInstance_iff.mp h
  rw [run_eq, methodTable_restyle] at hm'
  obtain ⟨m, hm, rfl⟩ := Option.map_eq_some_iff.mp hm'
  refine MethodTable.needsNoInstance_iff.mpr ⟨m, hm, ?_⟩
  rcases hnone with hstatic | helig
  · -- static now: it was so before, or the run made it so, having found it eligible
    rcases (Method.isStatic_restyle_style hs).mp hstatic with hbefore | hmade
    · exact Or.inl hbefore
    · exact Or.inr (Method.isEligible_anti hsub hmade)
  · exact Or.inr (isEligible_of_isEligible_restyle hs helig).2

theorem usage_analysis_run :
    (u.run s).unit.analysis.usage =
      callClosure (u.run s).unit.methodTable u.topLevelTypes (u.usage u.instanceFields).calls
        (u.usage u.instanceFields).methods := by
  unfold analysis
  simp only [instanceFields_run, topLevelTypes_run, usage_run]

theorem usage_run_subset (hs : s.dryRun = false) :
    (u.run s).unit.analysis.usage ⊆ u.analysis.usage := by
  rw [usage_analysis_run]
  refine callClosure_subset (fun call hcall hcaller => needsNoInstance_run hs ?_)
    (subset_callClosure _ _ _ _)
  exact callClosure_closed _ _ _ _ call hcall hcaller

theorem subset_usage_run (hs : s.dryRun = false) :
    u.analysis.usage ⊆ (u.run s).unit.analysis.usage := by
  have hsub := usage_run_subset (u := u) hs
  rw [usage_analysis_run] at hsub ⊢
  refine callClosure_subset (fun call hcall hcaller => needsNoInstance_of_run hs hsub ?_)
    (subset_callClosure _ _ _ _)
  exact callClosure_closed _ _ _ _ call hcall hcaller

/-! ### The second run -/

theorem isEligible_run (hs : s.dryRun = false) {m : Method}
    (hm : m ∈ (u.run s).unit.outline.methods) :
    (u.run s).unit.analysis.isEligible m = false := by
  have htop : (u.run s).unit.analysis.topLevel = u.topLevelTypes := topLevelTypes_run
  rw [run_eq, methods_restyle] at hm
  obtain ⟨m₀, -, rfl⟩ := List.mem_map.mp hm
  by_contra h
  rw [Bool.not_eq_false, Analysis.isEligible, htop] at h
  obtain ⟨hleft, helig⟩ := isEligible_of_isEligible_restyle hs h
  have hbefore : u.analysis.isEligible m₀ = true :=
    Method.isEligible_anti (subset_usage_run hs) helig
  rw [hleft] at hbefore
  cases hbefore

theorem run_of_not_eligible (h : ∀ m ∈ u.outline.methods, u.analysis.isEligible m = false) :
    (u.run s).report.changes = [] ∧ (u.run s).unit = u := by
  rw [run_eq]
  constructor
  · refine List.filterMap_eq_nil_iff.mpr fun m hm => ?_
    simp [Analysis.change?, h m hm]
  · refine restyle_eq_self fun m hm => ?_
    simp [Analysis.style, h m hm]

/-- **A second run changes nothing,** under whatever settings, and the analysis before it agrees
    with the one before the first run. -/
theorem run_after_run (u : CompilationUnit) (first second : Settings)
    (hfirst : first.dryRun = false) :
    let v := (u.run first).unit
    v.analysis.instanceFields = u.analysis.instanceFields ∧
      (∀ σ, σ ∈ v.analysis.usage ↔ σ ∈ u.analysis.usage) ∧
      v.analysis.topLevel = u.analysis.topLevel ∧
      (v.run second).report.changes = [] ∧ (v.run second).unit = v := by
  intro v
  refine ⟨instanceFields_run, ?_, topLevelTypes_run, ?_⟩
  · intro σ
    constructor
    · intro h
      exact usage_run_subset hfirst h
    · intro h
      exact subset_usage_run hfirst h
  · exact run_of_not_eligible fun m hm => isEligible_run hfirst hm

/-- A class with one method, its keywords out of order. -/
def unsorted : CompilationUnit where
  classes := [ClassDraft.declare ⟨[], .class, "Unit", none, none, [],
    [.method { keywords := [.final, .private], result := "void", name := "noop" }]⟩]

/-- A run that keeps the order of keywords makes the method static; one that sorts them then finds
    nothing to do, and leaves the keywords out of order. -/
theorem unsorted_run_after_run :
    let keep : Settings := { reorderModifiers := false }
    let v := (unsorted.run keep).unit
    unsorted.reported keep = [⟨"Unit", "noop", [], "void"⟩] ∧
      (v.run {}).report.changes = [] ∧ (v.run {}).unit = v ∧
      v.outline.methods.map (fun m => m.modifiers.keywords) = [[.static, .final, .private]] := by
  have h := run_after_run unsorted { reorderModifiers := false } {} rfl
  exact ⟨by decide, h.2.2.2.1, h.2.2.2.2, by decide⟩

end CompilationUnit

end Receiverless
