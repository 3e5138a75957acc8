/-
  Receiverless/Pass/Run.lean
  ==========================
  **The pass over a unit.**  The analysis comes first and is complete before
  anything changes.  Then one walk over the unit judges every method, records
  the eligible ones and gives them the keyword `static`.
-/
import Receiverless.Tree.Rebuild
import Receiverless.Analysis.CallClosure
import Receiverless.Pass.Changes
import Receiverless.Settings.Basic

namespace Receiverless

/-- The entry of the report for a method that is made static. -/
def Method.change (order : KeywordOrder) (m : Method) (signature : MethodSig) : Change where
  method := signature
  span := m.span
  before := m.modifiers.render
  after := (m.asStatic order).modifiers.render

/-- Record an eligible method and go on to its body; unless the run is dry, the method with the
    walked body is then made static.  The walk of a body neither reads nor writes the modifiers of
    the method around it, so that the method might as well be made static first. -/
def Pass.visitMethod (a : Analysis) (s : Settings) (m : Method)
    (walk : StateM (List Change) Method) : StateM (List Change) Method := do
  if a.isEligible m then
    match m.signature with
    | none => walk
    | some signature =>
      modify (· ++ [m.change s.order signature])
      let walked ← walk
      return if s.dryRun then walked else walked.asStatic s.order
  else walk

/-- What a run gives back. -/
structure Outcome where
  unit : CompilationUnit
  report : Report

/-- Whether any method was, or would be, made static. -/
def Outcome.changed (o : Outcome) : Bool := !o.report.isEmpty

/-- Make every eligible method of a unit static. -/
def CompilationUnit.run (s : Settings) (u : CompilationUnit) : Outcome :=
  let a := u.analysis
  let (unit, changes) := (u.rebuild { method := Pass.visitMethod a s }).run []
  { unit, report := { path := unit.path, dryRun := s.dryRun, changes } }

/-- How the pass is presented to users. -/
structure Presentation where
  name : String
  displayName : String
  description : String

def Pass.presentation : Presentation where
  name := "staticize/static-nonoverridable-methods"
  displayName := "Non-overridable methods not accessing instance variables should be static"
  description :=
    "Change private and final (non-overridable) methods not accessing instance variables to static."

end Receiverless
