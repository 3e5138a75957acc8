/-
  Receiverless/Proofs/Keywords.lean
  =================================
  **What inserting `static` does to the keywords.**  The new list is sorted or
  not, and laid out anew in either case; as a collection of keywords it is the
  old one and `static` (`perm_keywords_addStatic`).  The questions that are asked
  of modifier lists do not depend on order or layout, so they only need this.
-/
import Mathlib.Data.List.Sort
import Receiverless.Tree.Modifiers

namespace Receiverless

/-! ### The sort of the library -/

namespace Order

variable {α : Type} (r : α → α → Prop) [DecidableRel r]

theorem insert_eq_orderedInsert (a : α) (as : List α) :
    insert (fun a b => decide (r a b)) a as = as.orderedInsert r a := by
  induction as with
  | nil => rfl
  | cons b bs ih => simp only [insert, decide_eq_true_eq, List.orderedInsert_cons, ih]

theorem sort_eq_insertionSort (as : List α) :
    sort (fun a b => decide (r a b)) as = as.insertionSort r := by
  induction as with
  | nil => rfl
  | cons a as ih =>
    rw [List.insertionSort_cons, ← ih]
    exact insert_eq_orderedInsert r a _

end Order

theorem Modifiers.inCanonicalOrder_eq (ms : Modifiers) :
    ms.inCanonicalOrder = ms.insertionSort fun a b => a.keyword.rank ≤ b.keyword.rank :=
  Order.sort_eq_insertionSort _ ms

/-! ### The keywords of a list -/

namespace Modifiers

theorem has_iff {ms : Modifiers} {k : Keyword} : ms.has k = true ↔ k ∈ ms.keywords := by
  simp [has, keywords]

theorem keywords_spaceOut (lead : String) (ms : Modifiers) :
    (spaceOut lead ms).keywords = ms.keywords := by
  cases ms with
  | nil => rfl
  | cons m ms => simp [spaceOut, keywords]

/-- A list without the keyword gets exactly this one keyword more. -/
theorem perm_keywords_addStatic {ms : Modifiers} (order : KeywordOrder)
    (h : ms.has .static = false) :
    (ms.addStatic order).keywords.Perm (.static :: ms.keywords) := by
  have hinsert : (ms.insertIdx ms.staticIndex ⟨"", .static⟩).Perm (⟨"", .static⟩ :: ms) :=
    List.perm_insertIdx _ _ List.findIdx_le_length
  unfold addStatic
  simp only [h, Bool.false_eq_true, if_false]
  rw [keywords_spaceOut]
  cases order with
  | canonical =>
    rw [inCanonicalOrder_eq]
    exact ((List.perm_insertionSort _ _).trans hinsert).map Modifier.keyword
  | preserve => exact hinsert.map Modifier.keyword

theorem has_static_addStatic (ms : Modifiers) (order : KeywordOrder) :
    (ms.addStatic order).has .static = true := by
  cases h : ms.has .static with
  | true =>
    rw [addStatic, if_pos h]
    exact h
  | false =>
    have hperm := perm_keywords_addStatic order h
    exact has_iff.mpr (hperm.mem_iff.mpr List.mem_cons_self)

end Modifiers

end Receiverless
