/-
  Receiverless/Settings/Basic.lean
  ================================
  **Settings of a run.**  By default the modifiers of a changed method are put
  into canonical order, and the unit is changed.
-/
import Receiverless.Tree.Modifiers

namespace Receiverless

structure Settings where
  /-- sort all modifiers of a changed method, not only insert the new one -/
  reorderModifiers : Bool := true
  /-- report the changes without making them -/
  dryRun : Bool := false
deriving DecidableEq, Repr

def Settings.order (s : Settings) : KeywordOrder :=
  if s.reorderModifiers then .canonical else .preserve

end Receiverless
