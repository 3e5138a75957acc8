/-
  Receiverless/Proofs/DeclarationOrder.lean
  =========================================
  **Declaration order does not matter.**  Putting the classes of a unit and the
  members of these classes into another order changes the order in which
  everything is collected: fields, uses, calls, the method table, and with the
  calls the course of the closure.  The sets that methods are judged against
  stay the same, and so a run and a rearrangement commute (`run_arrange`).

  Every collection of the analysis goes through the classes one after the other,
  and through the members of each, so it is permuted (`Arrangement.perm_flatMap`).
  Two lookups could still see the order, the one of a method by its signature and
  the one of a class by its type, as the last declaration counts there.  They do
  not if signatures and types are distinct.  The closure is the least closed set,
  whichever way it is reached.
-/
import Mathlib.Data.List.Perm.Basic
import Receiverless.Proofs.Attribution
import Receiverless.Proofs.PassRun
import Receiverless.Draft.Shorthand

namespace Receiverless

/-! ### Other orders -/

section Pick

variable {α β : Type}

/-- What stands at the given positions of a list. -/
def pick (positions : List Nat) (xs : List α) : List α := positions.filterMap (xs[·]?)

theorem pick_range (xs : List α) : pick (List.range xs.length) xs = xs := by
  induction xs with
  | nil => rfl
  | cons x xs ih =>
    have hfirst : (x :: xs)[0]? = some x := rfl
    rw [pick, List.length_cons, List.range_succ_eq_map, List.filterMap_cons_some hfirst,
      List.filterMap_map]
    exact congrArg (x :: ·) ih

theorem perm_pick {positions : List Nat} {xs : List α}
    (h : positions.Perm (List.range xs.length)) : (pick positions xs).Perm xs := by
  have hrange := h.filterMap (xs[·]?)
  rwa [← pick, ← pick, pick_range] at hrange

theorem map_pick (f : α → β) (positions : List Nat) (xs : List α) :
    (pick positions xs).map f = pick positions (xs.map f) := by
  simp only [pick, List.map_filterMap, List.getElem?_map]

end Pick

/-- New orders for lists of the given lengths and for the list of these lists, by old positions. -/
structure Arrangement (lengths : List Nat) where
  order : List (Nat × List Nat)
  perm_outer : (order.map Prod.fst).Perm (List.range lengths.length)
  perm_inner : ∀ p ∈ order, ∀ n ∈ lengths[p.1]?, p.2.Perm (List.range n)

def ClassDecl.arrange (positions : List Nat) (c : ClassDecl) : ClassDecl :=
  { c with members := pick positions c.members }

namespace CompilationUnit

/-- How many members the classes have. -/
def memberCounts (u : CompilationUnit) : List Nat := u.classes.map fun c => c.members.length

/-- The classes and the members of each class in other orders. -/
def arrange {lengths : List Nat} (a : Arrangement lengths) (u : CompilationUnit) :
    CompilationUnit :=
  { u with classes := a.order.filterMap fun p => (u.classes[p.1]?).map (ClassDecl.arrange p.2) }

theorem restyle_arrange {lengths : List Nat} (a : Arrangement lengths) (style : Style)
    (u : CompilationUnit) : (u.arrange a).restyle style = (u.restyle style).arrange a := by
  have hclass : ∀ positions c, (ClassDecl.arrange positions c).restyle style =
      (c.restyle style).arrange positions := by
    intro positions c
    rw [ClassDecl.restyle_eq, ClassDecl.restyle_eq, ClassDecl.arrange, ClassDecl.arrange, map_pick]
  simp only [restyle, arrange, List.map_filterMap, List.getElem?_map, Option.map_map,
    Function.comp_def, hclass]

end CompilationUnit

/-- What is collected class by class, by a function that does not see the order of members, is
    collected in another order. -/
theorem Arrangement.perm_flatMap {α : Type} {u : CompilationUnit} (a : Arrangement u.memberCounts)
    {f : ClassDecl → List α}
    (hf : ∀ c members, members.Perm c.members → (f { c with members }).Perm (f c)) :
    ((u.arrange a).classes.flatMap f).Perm (u.classes.flatMap f) := by
  have houter : (pick (a.order.map Prod.fst) u.classes).Perm u.classes := by
    refine perm_pick ?_
    have hcount : u.memberCounts.length = u.classes.length := List.length_map _
    exact hcount ▸ a.perm_outer
  have hinner : ((u.arrange a).classes.flatMap f).Perm
      ((pick (a.order.map Prod.fst) u.classes).flatMap f) := by
    rw [CompilationUnit.arrange, pick, List.filterMap_map, List.filterMap_eq_flatMap_toList,
      List.filterMap_eq_flatMap_toList, List.flatMap_assoc, List.flatMap_assoc]
    refine List.Perm.flatMap_left _ fun p hp => ?_
    have hcount := a.perm_inner p hp
    rw [CompilationUnit.memberCounts, List.getElem?_map] at hcount
    dsimp only [Function.comp_apply]
    cases hc : u.classes[p.1]? with
    | none => exact List.Perm.refl _
    | some c =>
      rw [hc] at hcount
      simpa [ClassDecl.arrange] using hf c _ (perm_pick (hcount _ rfl))
  exact hinner.trans (houter.flatMap_right f)

/-! ### What is collected -/

namespace CompilationUnit

variable {u : CompilationUnit} (a : Arrangement u.memberCounts)

theorem perm_instanceFields_arrange : (u.arrange a).instanceFields.Perm u.instanceFields := by
  refine a.perm_flatMap fun c members hmembers => ?_
  exact ((hmembers.filterMap _).filter _).flatMap_right _

theorem perm_topLevelTypes_arrange : (u.arrange a).topLevelTypes.Perm u.topLevelTypes := by
  rw [topLevelTypes, topLevelTypes, List.map_eq_flatMap, List.map_eq_flatMap]
  exact a.perm_flatMap fun c members hmembers => List.Perm.refl _

theorem perm_collect_arrange {α : Type} {f : List Frame → Node → List α} (hf : Sparse f)
    (frames : List Frame) :
    ((u.arrange a).outline.collect f frames).Perm (u.outline.collect f frames) := by
  rw [hf.collect_unit, hf.collect_unit]
  refine a.perm_flatMap fun c members hmembers => ?_
  rw [hf.collect_nested, hf.collect_nested, hf.collect_classDecl, hf.collect_classDecl]
  exact hmembers.flatMap_right _

end CompilationUnit

theorem CompilationUnit.perm_declaredMethods_arrange {u : CompilationUnit}
    (a : Arrangement u.memberCounts) : (u.arrange a).declaredMethods.Perm u.declaredMethods := by
  refine a.perm_flatMap fun c members hmembers => ?_
  rw [declaredMethodsOfAll_eq_flatMap, declaredMethodsOfAll_eq_flatMap]
  exact hmembers.flatMap_right _

/-! ### Lookups -/

/-- Among distinct signatures the order of declarations cannot be seen. -/
theorem MethodTable.ofMethods_perm {ms ms' : List Method} (h : ms'.Perm ms)
    (hdistinct : (ms.filterMap Method.signature).Nodup) :
    MethodTable.ofMethods ms' = MethodTable.ofMethods ms := by
  funext σ
  have hfound := h.filter fun m => m.signature == some σ
  have hapart := (List.pairwise_filterMap.mp hdistinct).filter fun m => m.signature == some σ
  unfold MethodTable.ofMethods
  rcases hms : ms.filter fun m => m.signature == some σ with _ | ⟨m, _ | ⟨m', rest⟩⟩
  · rw [hms] at hfound
    rw [hfound.eq_nil, hms]
  · rw [hms] at hfound
    rw [hfound.eq_singleton, hms]
  · -- Two declarations found under one signature are no distinct ones.
    have hsig : ∀ x ∈ m :: m' :: rest, x.signature = some σ := by
      intro x hx
      rw [← hms] at hx
      exact beq_iff_eq.mp (List.mem_filter.mp hx).2
    rw [hms] at hapart
    have hne := (List.pairwise_cons.mp hapart).1 m' List.mem_cons_self
    exact absurd rfl (hne σ (hsig m (by simp)) σ (hsig m' (by simp)))

/-- With distinct types, the inner classes of a type are those of the classes with that type. -/
theorem mem_innerNamesOf_iff {cs : List ClassDecl} (hdistinct : (cs.map ClassDecl.type).Nodup)
    {type name : String} :
    name ∈ innerNamesOf cs type ↔
      name ∈ cs.flatMap fun c => if c.type = type then c.innerNames else [] := by
  rw [List.mem_flatMap]
  constructor
  · intro hname
    unfold innerNamesOf at hname
    split at hname
    · cases hname
    · rename_i c hlast
      obtain ⟨hc, htype⟩ := List.mem_filter.mp (List.mem_of_getLast? hlast)
      have hsame : c.type = type := beq_iff_eq.mp (Bool.and_eq_true_iff.mp htype).1
      exact ⟨c, hc, by rwa [if_pos hsame]⟩
  · rintro ⟨c, hc, hname⟩
    split at hname
    · rename_i hsame
      rwa [← hsame, innerNamesOf_eq hdistinct hc]
    · cases hname

theorem CompilationUnit.mem_innerNamesOf_arrange {u : CompilationUnit}
    (a : Arrangement u.memberCounts) (htypes : u.topLevelTypes.Nodup) (type name : String) :
    name ∈ innerNamesOf (u.arrange a).classes type ↔ name ∈ innerNamesOf u.classes type := by
  have htypes' : (u.arrange a).topLevelTypes.Nodup :=
    (perm_topLevelTypes_arrange a).nodup_iff.mpr htypes
  rw [mem_innerNamesOf_iff htypes, mem_innerNamesOf_iff htypes']
  refine (a.perm_flatMap fun c members hmembers => ?_).mem_iff
  dsimp only [ClassDecl.innerNames]
  split
  · split
    · exact List.Perm.refl _
    · exact hmembers.flatMap_right _
  · exact List.Perm.refl _

/-! ### The analysis and the run -/

namespace CompilationUnit

variable {u : CompilationUnit} (a : Arrangement u.memberCounts)

theorem mem_usage_analysis_arrange (hmethods : (u.declaredMethods.filterMap Method.signature).Nodup)
    (htypes : u.topLevelTypes.Nodup) (σ : MethodSig) :
    σ ∈ (u.arrange a).analysis.usage ↔ σ ∈ u.analysis.usage := by
  have hindex : (u.arrange a).methodTable = u.methodTable :=
    MethodTable.ofMethods_perm (perm_declaredMethods_arrange a) hmethods
  have htop : ∀ t, t ∈ (u.arrange a).topLevelTypes ↔ t ∈ u.topLevelTypes :=
    fun t => (perm_topLevelTypes_arrange a).mem_iff
  have hmarks : (fun frames (n : Node) =>
      n.marks ⟨(u.arrange a).instanceFields, (u.arrange a).classes⟩ frames) =
        fun frames n => n.marks ⟨u.instanceFields, u.classes⟩ frames := by
    funext frames n
    refine Node.marks_congr (fun f => ?_) (mem_innerNamesOf_arrange a htypes) frames n
    exact (perm_instanceFields_arrange a).mem_iff
  have husers : ((u.arrange a).usage (u.arrange a).instanceFields).methods.Perm
      (u.usage u.instanceFields).methods := by
    unfold usage Outline.usage
    rw [hmarks]
    exact perm_collect_arrange a (Node.sparse_marks _) []
  have hcalls : ((u.arrange a).usage (u.arrange a).instanceFields).calls.Perm
      (u.usage u.instanceFields).calls := perm_collect_arrange a Node.sparse_calls []
  unfold analysis
  rw [hindex]
  constructor
  · intro h
    exact callClosure_mono (fun t => (htop t).symm) hcalls.subset husers.subset h
  · intro h
    exact callClosure_mono htop hcalls.symm.subset husers.symm.subset h

/-- **Declaration order does not matter.**  If the methods of member classes have distinct
    signatures and the top-level classes distinct types, then rearranging these classes and the
    members of each leaves the analysis as it was, up to order, and the result of a run is
    rearranged alike. -/
theorem run_arrange (u : CompilationUnit) (a : Arrangement u.memberCounts)
    (hmethods : (u.declaredMethods.filterMap Method.signature).Nodup)
    (htypes : u.topLevelTypes.Nodup) :
    (∀ f, f ∈ (u.arrange a).analysis.instanceFields ↔ f ∈ u.analysis.instanceFields) ∧
      (∀ σ, σ ∈ (u.arrange a).analysis.usage ↔ σ ∈ u.analysis.usage) ∧
      (∀ t, t ∈ (u.arrange a).analysis.topLevel ↔ t ∈ u.analysis.topLevel) ∧
      ∀ s, ((u.arrange a).run s).unit = (u.run s).unit.arrange a := by
  have husage := mem_usage_analysis_arrange a hmethods htypes
  have htop : ∀ t, t ∈ (u.arrange a).analysis.topLevel ↔ t ∈ u.analysis.topLevel :=
    fun t => (perm_topLevelTypes_arrange a).mem_iff
  refine ⟨fun f => (perm_instanceFields_arrange a).mem_iff, husage, htop, ?_⟩
  intro s
  have hstyle : (u.arrange a).analysis.style s = u.analysis.style s := by
    funext d modifiers
    unfold Analysis.style Analysis.isEligible Method.isEligible
    rw [Method.verdict_congr husage htop]
  rw [run_eq, run_eq, hstyle]
  exact restyle_arrange a _ u

/-- `class Relay { private void ping() { pong(); } private void pong() { level; } int level; }`
    and `class Lamp { private void glow() {} }` -/
def relay : CompilationUnit where
  classes := [
    ClassDraft.declare ⟨[], .class, "Relay", none, none, [], [
      .method
        { keywords := [.private], result := "void", name := "ping"
          body := some [.eval (.resolvedCall none ⟨⟨"Relay", "pong", [], "void"⟩, false⟩ [])] },
      .method
        { keywords := [.private], result := "void", name := "pong"
          body := some [.eval (.fieldName "level" ⟨"Relay", "level", "int"⟩)] },
      .field (.named "int" "level")]⟩,
    ClassDraft.declare ⟨[], .class, "Lamp", none, none, [], [
      .method { keywords := [.private], result := "void", name := "glow" }]⟩]

/-- The lamp first, and the field and `pong` before `ping`. -/
def relayTurned : Arrangement relay.memberCounts where
  order := [(1, [0]), (0, [2, 1, 0])]
  perm_outer := by decide
  perm_inner := by decide

theorem relay_run_arrange :
    (relay.declaredMethods.filterMap Method.signature).Nodup ∧ relay.topLevelTypes.Nodup ∧
      (∀ f, f ∈ (relay.arrange relayTurned).analysis.instanceFields ↔
        f ∈ relay.analysis.instanceFields) ∧
      (∀ σ, σ ∈ (relay.arrange relayTurned).analysis.usage ↔ σ ∈ relay.analysis.usage) ∧
      (∀ t, t ∈ (relay.arrange relayTurned).analysis.topLevel ↔ t ∈ relay.analysis.topLevel) ∧
      ∀ s, ((relay.arrange relayTurned).run s).unit = (relay.run s).unit.arrange relayTurned := by
  have hmethods : (relay.declaredMethods.filterMap Method.signature).Nodup := by decide
  have htypes : relay.topLevelTypes.Nodup := by decide
  exact ⟨hmethods, htypes, run_arrange relay relayTurned hmethods htypes⟩

end CompilationUnit

end Receiverless
