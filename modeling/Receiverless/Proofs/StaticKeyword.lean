/-
  Receiverless/Proofs/StaticKeyword.lean
  ======================================
  **Where `static` goes, and how the list is laid out then.**  Insertion, sorting
  and re-layout are done one after the other, and each may displace the first
  modifier, which carries the text in front of the whole list.  Looked at by its
  keywords and by its leads, the result has a plain description:

    * the leads are the old first lead and then single spaces, whatever was
      displaced                                — `Modifiers.leads_addStatic`;
    * `static` splits the keywords where the first one ranks after it, and all
      others stay where they are               — `Modifiers.keywords_addStatic_preserve`;
    * sorting gives a list in canonical order  — `Modifiers.ordered_keywords_canonical`;
    * the scan for the place of `static` keeps a list in canonical order, and
      brings no other list into it             — `Keyword.ordered_withStatic_iff`.

  The last point says when the sort has something to do
  (`Method.asStatic_canonical_eq_preserve_iff`).
-/
import Mathlib.Data.List.TakeWhile
import Receiverless.Tree.Basic
import Receiverless.Proofs.Keywords

namespace Receiverless

/-! ### The list with `static` in it -/

theorem insertIdx_findIdx {α : Type} (p : α → Bool) (a : α) (as : List α) :
    as.insertIdx (as.findIdx p) a =
      as.takeWhile (fun b => !p b) ++ a :: as.dropWhile (fun b => !p b) := by
  induction as with
  | nil => rfl
  | cons b bs ih =>
    by_cases hb : p b = true
    · simp [List.findIdx_cons, hb]
    · simp [List.findIdx_cons, hb, ih]

namespace Keyword

/-- The keywords stand in canonical order; repetitions are allowed. -/
def Ordered (ks : List Keyword) : Prop := ks.Pairwise fun j k => j.rank ≤ k.rank

instance (ks : List Keyword) : Decidable (Ordered ks) := inferInstanceAs (Decidable (ks.Pairwise _))

/-- Whether the keyword may stand in front of `static`. -/
def precedesStatic (k : Keyword) : Bool := k.rank ≤ Keyword.static.rank

/-- `static` in front of the first keyword that ranks after it, else at the end. -/
def withStatic (ks : List Keyword) : List Keyword :=
  ks.takeWhile precedesStatic ++ .static :: ks.dropWhile precedesStatic

theorem precedesStatic_of_mem_takeWhile {ks : List Keyword} {k : Keyword}
    (h : k ∈ ks.takeWhile precedesStatic) : k.rank ≤ Keyword.static.rank := by
  simpa [precedesStatic] using List.mem_takeWhile_imp h

/-- What stands behind `static` in an ordered list ranks after it. -/
theorem Ordered.le_of_mem_dropWhile {ks : List Keyword} (h : Ordered ks) {k : Keyword}
    (hk : k ∈ ks.dropWhile precedesStatic) : Keyword.static.rank ≤ k.rank := by
  induction ks with
  | nil => cases hk
  | cons j js ih =>
    obtain ⟨hj, hjs⟩ := List.pairwise_cons.mp h
    rw [List.dropWhile_cons] at hk
    by_cases hfront : precedesStatic j = true
    · rw [if_pos hfront] at hk
      exact ih hjs hk
    · rw [if_neg hfront] at hk
      have hafter : Keyword.static.rank < j.rank := by simpa [precedesStatic] using hfront
      rcases List.mem_cons.mp hk with rfl | hk
      · omega
      · have := hj k hk
        omega

theorem ordered_withStatic_iff {ks : List Keyword} : Ordered (withStatic ks) ↔ Ordered ks := by
  constructor
  · -- The old keywords are left over when `static` is taken out.
    intro h
    have hsub : (ks.takeWhile precedesStatic ++ ks.dropWhile precedesStatic).Sublist
        (withStatic ks) := (List.sublist_cons_self _ _).append_left _
    rw [List.takeWhile_append_dropWhile] at hsub
    exact List.Pairwise.sublist hsub h
  · intro h
    have hparts : Ordered (ks.takeWhile precedesStatic ++ ks.dropWhile precedesStatic) := by
      rwa [List.takeWhile_append_dropWhile]
    obtain ⟨hfront, hback, hcross⟩ := List.pairwise_append.mp hparts
    refine List.pairwise_append.mpr ⟨hfront, List.pairwise_cons.mpr ⟨?_, hback⟩, ?_⟩
    · intro k hk
      exact h.le_of_mem_dropWhile hk
    · intro j hj k hk
      rcases List.mem_cons.mp hk with rfl | hk
      · exact precedesStatic_of_mem_takeWhile hj
      · exact hcross j hj k hk

theorem erase_withStatic {ks : List Keyword} (h : .static ∉ ks) :
    (withStatic ks).erase .static = ks := by
  have hfront : .static ∉ ks.takeWhile precedesStatic := by
    intro hmem
    exact h ((List.takeWhile_prefix _).subset hmem)
  rw [withStatic, List.erase_append_right _ hfront, List.erase_cons_head,
    List.takeWhile_append_dropWhile]

end Keyword

namespace Modifiers

/-- The list with `static` inserted, before it is sorted and laid out. -/
def inserted (ms : Modifiers) : Modifiers := ms.insertIdx ms.staticIndex ⟨"", .static⟩

theorem keywords_inserted (ms : Modifiers) :
    ms.inserted.keywords = Keyword.withStatic ms.keywords := by
  have hrank : (fun m : Modifier => !decide (Keyword.static.rank < m.keyword.rank)) =
      Keyword.precedesStatic ∘ Modifier.keyword := by
    funext m
    simp only [Function.comp_apply, Keyword.precedesStatic, ← decide_not, Nat.not_lt]
  unfold inserted staticIndex keywords Keyword.withStatic
  rw [insertIdx_findIdx, hrank, List.map_append, List.map_cons, List.takeWhile_map,
    List.dropWhile_map]

theorem length_inserted (ms : Modifiers) : ms.inserted.length = ms.length + 1 :=
  List.length_insertIdx_of_le_length List.findIdx_le_length _

theorem addStatic_preserve {ms : Modifiers} (h : ms.has .static = false) :
    ms.addStatic .preserve = spaceOut ms.leading ms.inserted := by
  simp [addStatic, h, inserted]

theorem addStatic_canonical {ms : Modifiers} (h : ms.has .static = false) :
    ms.addStatic .canonical = spaceOut ms.leading ms.inserted.inCanonicalOrder := by
  simp [addStatic, h, inserted]

theorem addStatic_of_has {ms : Modifiers} (order : KeywordOrder) (h : ms.has .static = true) :
    ms.addStatic order = ms := by
  rw [addStatic, if_pos h]

/-! ### Leads -/

theorem leads_spaceOut (lead : String) {ms : Modifiers} {n : Nat} (h : ms.length = n + 1) :
    (spaceOut lead ms).map Modifier.lead = lead :: List.replicate n " " := by
  cases ms with
  | nil => cases h
  | cons m ms =>
    have hlength : ms.length = n := by simpa using h
    simp [spaceOut, ← hlength, Function.comp_def]

theorem leads_addStatic {ms : Modifiers} (order : KeywordOrder) (h : ms.has .static = false) :
    (ms.addStatic order).map Modifier.lead = ms.leading :: List.replicate ms.length " " := by
  cases order with
  | preserve =>
    rw [addStatic_preserve h]
    exact leads_spaceOut _ ms.length_inserted
  | canonical =>
    rw [addStatic_canonical h]
    have hsorted : ms.inserted.inCanonicalOrder.length = ms.inserted.length := by
      rw [inCanonicalOrder_eq, List.length_insertionSort]
    exact leads_spaceOut _ (hsorted.trans ms.length_inserted)

/-! ### Keywords -/

theorem keywords_addStatic_preserve {ms : Modifiers} (h : ms.has .static = false) :
    (ms.addStatic .preserve).keywords = Keyword.withStatic ms.keywords := by
  rw [addStatic_preserve h, keywords_spaceOut, keywords_inserted]

theorem pairwise_inCanonicalOrder (ms : Modifiers) :
    ms.inCanonicalOrder.Pairwise fun a b => a.keyword.rank ≤ b.keyword.rank := by
  have htotal : Std.Total fun a b : Modifier => a.keyword.rank ≤ b.keyword.rank :=
    ⟨fun a b => Nat.le_total a.keyword.rank b.keyword.rank⟩
  have htrans : IsTrans Modifier fun a b => a.keyword.rank ≤ b.keyword.rank :=
    ⟨fun _ _ _ => Nat.le_trans⟩
  rw [inCanonicalOrder_eq]
  exact List.pairwise_insertionSort _ ms

theorem ordered_keywords_canonical {ms : Modifiers} (h : ms.has .static = false) :
    Keyword.Ordered (ms.addStatic .canonical).keywords := by
  rw [addStatic_canonical h, keywords_spaceOut]
  exact List.pairwise_map.mpr ms.inserted.pairwise_inCanonicalOrder

theorem inCanonicalOrder_eq_self {ms : Modifiers} (h : Keyword.Ordered ms.keywords) :
    ms.inCanonicalOrder = ms := by
  rw [inCanonicalOrder_eq]
  exact (List.pairwise_map.mp h).insertionSort_eq

/-- Sorting changes nothing exactly if there is nothing to sort. -/
theorem addStatic_canonical_eq_preserve_iff {ms : Modifiers} (h : ms.has .static = false) :
    ms.addStatic .canonical = ms.addStatic .preserve ↔ Keyword.Ordered ms.keywords := by
  constructor
  · intro heq
    have hordered := ordered_keywords_canonical h
    rw [heq, keywords_addStatic_preserve h] at hordered
    exact Keyword.ordered_withStatic_iff.mp hordered
  · intro hordered
    have hinserted : Keyword.Ordered ms.inserted.keywords := by
      rw [keywords_inserted]
      exact Keyword.ordered_withStatic_iff.mpr hordered
    rw [addStatic_canonical h, addStatic_preserve h, inCanonicalOrder_eq_self hinserted]

end Modifiers

/-! ### Methods -/

namespace Method

/-- **What making a method static does to it.**  It changes the modifiers only, and a second time
    nothing at all.  The first modifier has the lead that the first one had before, every other one
    a single space.  The keywords are the old ones with `static` in front of the first that ranks
    after it, or the old ones and `static` in canonical order. -/
theorem asStatic_description (m : Method) (h : m.isStatic = false) :
    (∀ order,
      m.asStatic order = { m with modifiers := (m.asStatic order).modifiers } ∧
      (m.asStatic order).modifiers.map Modifier.lead =
        (m.modifiers.head?.map Modifier.lead).getD "" :: List.replicate m.modifiers.length " " ∧
      ∀ again, (m.asStatic order).asStatic again = m.asStatic order) ∧
    (m.asStatic .preserve).modifiers.keywords = Keyword.withStatic m.modifiers.keywords ∧
    (m.asStatic .preserve).modifiers.keywords.erase .static = m.modifiers.keywords ∧
    (m.asStatic .canonical).modifiers.keywords.Perm (.static :: m.modifiers.keywords) ∧
    Keyword.Ordered (m.asStatic .canonical).modifiers.keywords := by
  have hkeywords : (m.asStatic .preserve).modifiers.keywords =
      Keyword.withStatic m.modifiers.keywords := Modifiers.keywords_addStatic_preserve h
  have habsent : .static ∉ m.modifiers.keywords := by
    intro hmem
    have hhas : m.modifiers.has .static = true := Modifiers.has_iff.mpr hmem
    rw [isStatic] at h
    simp [hhas] at h
  refine ⟨?_, hkeywords, ?_, ?_, ?_⟩
  · intro order
    refine ⟨rfl, ?_, ?_⟩
    · have hleading : (m.modifiers.head?.map Modifier.lead).getD "" = m.modifiers.leading := by
        cases m.modifiers <;> rfl
      rw [hleading]
      exact Modifiers.leads_addStatic order h
    · intro again
      have hstatic := m.modifiers.has_static_addStatic order
      simp only [asStatic, Modifiers.addStatic_of_has again hstatic]
  · rw [hkeywords, Keyword.erase_withStatic habsent]
  · exact Modifiers.perm_keywords_addStatic .canonical h
  · exact Modifiers.ordered_keywords_canonical h

/-- `final  private final int pick()` with a tab in front, so that inserting `static` displaces the
    first keyword and sorting displaces it again. -/
def pick : Method where
  modifiers := [⟨"\t", .final⟩, ⟨"  ", .private⟩, ⟨"", .final⟩]
  typeParams := []
  result := "int"
  name := "pick"
  params := []
  throws := []
  body := some []
  signature := none
  span := {}

theorem pick_asStatic_description :
    pick.isStatic = false ∧
    (pick.asStatic .preserve).modifiers.render = "\tstatic final private final" ∧
    (pick.asStatic .canonical).modifiers.render = "\tprivate static final final" ∧
    Keyword.Ordered (pick.asStatic .canonical).modifiers.keywords ∧
    ∀ again, (pick.asStatic .preserve).asStatic again = pick.asStatic .preserve := by
  have hstatic : pick.isStatic = false := by decide
  obtain ⟨heither, -, -, -, hordered⟩ := asStatic_description pick hstatic
  exact ⟨hstatic, by decide, by decide, hordered, (heither .preserve).2.2⟩

/-- **Sorting matters only where there is something to sort.**  A method becomes the same static
    method under both orders exactly if its keywords stand in canonical order. -/
theorem asStatic_canonical_eq_preserve_iff (m : Method) (h : m.isStatic = false) :
    m.asStatic .canonical = m.asStatic .preserve ↔ Keyword.Ordered m.modifiers.keywords := by
  rw [← Modifiers.addStatic_canonical_eq_preserve_iff h]
  constructor
  · intro heq
    exact congrArg Method.modifiers heq
  · intro heq
    simp only [asStatic, heq]

theorem pick_orders_differ :
    pick.isStatic = false ∧ ¬ Keyword.Ordered pick.modifiers.keywords ∧
      pick.asStatic .canonical ≠ pick.asStatic .preserve := by
  have hstatic : pick.isStatic = false := by decide
  have hunordered : ¬ Keyword.Ordered pick.modifiers.keywords := by decide
  exact ⟨hstatic, hunordered, mt (asStatic_canonical_eq_preserve_iff pick hstatic).mp hunordered⟩

end Method

end Receiverless
