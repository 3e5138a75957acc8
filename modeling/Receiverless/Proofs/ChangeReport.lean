/-
  Receiverless/Proofs/ChangeReport.lean
  =====================================
  **The report lists the eligible methods, in order.**  There are two walks over
  a unit.  The analysis and the verdicts follow the outline; the pass follows the
  walk that rebuilds, and fills the report on its way while it changes the tree.
  The report is nevertheless what one reads off the outline of the unit that went
  in (`CompilationUnit.run_report_exact`): its eligible methods, each with its
  modifiers before and after, whether the run is dry or not.
-/
import Receiverless.Proofs.PassRun

namespace Receiverless

/-! ### One method -/

theorem Analysis.isEligible_iff_verdict {a : Analysis} {d : Method} :
    a.isEligible d = true ↔ a.verdict d = .eligible := beq_iff_eq

/-- The entry of a method, with its signature as the declaration has it. -/
theorem Analysis.map_change? (a : Analysis) (s : Settings) (d : Method) :
    (a.change? s d).map (fun c => (some c.method, c.span, c.before, c.after)) =
      if a.verdict d = .eligible then
        some (d.signature, d.span, d.modifiers.render, (d.asStatic s.order).modifiers.render)
      else none := by
  unfold change?
  by_cases helig : a.isEligible d = true
  · obtain ⟨σ, hσ, -⟩ := Method.isEligible_iff.mp helig
    rw [if_pos helig, if_pos (isEligible_iff_verdict.mp helig), hσ]
    rfl
  · have hverdict : a.verdict d ≠ .eligible := fun h => helig (isEligible_iff_verdict.mpr h)
    rw [if_neg helig, if_neg hverdict]
    rfl

/-! ### The whole walk -/

/-- Hooks that list the methods they are called for, and change nothing. -/
def Hooks.listing : Hooks (StateM (List Method)) where
  method := fun d walk => do
    modify (· ++ [d])
    walk

theorem Hooks.listing_eq :
    Hooks.listing = .noting (fun d => modify (· ++ [d])) (fun _ modifiers => modifiers) := by
  have hmethod : ∀ d walk, Hooks.listing.method d walk =
      (Hooks.noting (fun d => modify (· ++ [d])) (fun _ modifiers => modifiers)).method d walk := by
    intro d walk
    rw [Hooks.noting_method_of_keep _ (by simp)]
    rfl
  unfold Hooks.listing Hooks.noting
  congr 1
  funext d walk
  exact hmethod d walk

namespace CompilationUnit

/-- The methods that the rebuilding walk comes to, in its order. -/
def rebuiltMethods (u : CompilationUnit) : List Method := ((u.rebuild .listing).run []).2

theorem rebuiltMethods_eq (u : CompilationUnit) : u.rebuiltMethods = u.outline.methods := by
  rw [rebuiltMethods, Hooks.listing_eq, rebuild_noting, StateT.run_bind,
    run_forM_modify (fun d : Method => [d])]
  change [] ++ u.outline.methods.flatMap (fun d => [d]) = u.outline.methods
  rw [List.nil_append, List.flatMap_singleton']

theorem unit_run_dry {s : Settings} (hs : s.dryRun = true) (u : CompilationUnit) :
    (u.run s).unit = u := by
  rw [run_eq]
  refine restyle_eq_self fun d _ => ?_
  simp [Analysis.style, hs]

theorem changes_run (s : Settings) (u : CompilationUnit) :
    (u.run s).report.changes.map (fun c => (some c.method, c.span, c.before, c.after)) =
      (u.outline.methods.filter fun d => u.analysis.verdict d = .eligible).map fun d =>
        (d.signature, d.span, d.modifiers.render, (d.asStatic s.order).modifiers.render) := by
  rw [run_eq]
  dsimp only
  rw [List.map_filterMap]
  induction u.outline.methods with
  | nil => rfl
  | cons d ds ih =>
    by_cases helig : u.analysis.verdict d = .eligible
    · rw [List.filterMap_cons, Analysis.map_change?, if_pos helig,
        List.filter_cons_of_pos (by simpa using helig), List.map_cons, ih]
    · rw [List.filterMap_cons, Analysis.map_change?, if_neg helig,
        List.filter_cons_of_neg (by simpa using helig), ih]

/-- **The report is exact.**  The two walks meet the same methods in the same order; the changes of
    a run are the eligible methods in this order, each with its signature, its place and its
    modifiers before and after; and a dry run reports what the real one does, and leaves the unit
    alone. -/
theorem run_report_exact (s : Settings) (u : CompilationUnit) :
    u.rebuiltMethods = u.outline.methods ∧
      (u.run s).report.changes.map (fun c => (some c.method, c.span, c.before, c.after)) =
        ((u.outline.methods.filter fun d => u.analysis.verdict d = .eligible).map fun d =>
          (d.signature, d.span, d.modifiers.render, (d.asStatic s.order).modifiers.render)) ∧
      (u.run { s with dryRun := true }).report.changes =
        (u.run { s with dryRun := false }).report.changes ∧
      (u.run { s with dryRun := true }).unit = u := by
  refine ⟨u.rebuiltMethods_eq, changes_run s u, ?_, unit_run_dry rfl u⟩
  rw [run_eq, run_eq]
  rfl

end CompilationUnit

end Receiverless
