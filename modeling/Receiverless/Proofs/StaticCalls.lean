/-
  Receiverless/Proofs/StaticCalls.lean
  ====================================
  **Which methods become static: as many as the calls allow.**  Making a method
  static is safe only if the methods it calls on its instance are static as well,
  before the pass or after it.  A run satisfies this, and among the ways to
  satisfy it the run takes the largest: methods that call each other in a cycle
  and need no instance otherwise are all made static.

  The second part is where the closure must not mark too much.  For a set of
  methods that could be made static together, the usage set without them is
  closed over calls again, so by leastness the closure contains none of them.
-/
import Mathlib.Data.Set.Basic
import Receiverless.Proofs.PassRun
import Receiverless.Draft.Shorthand

namespace Receiverless

namespace CompilationUnit

/-- A set of methods that can be made static together: each of them may be made static by itself,
    and what they call on their instance is in the set or static already. -/
structure Convertible (u : CompilationUnit) (T : Set MethodSig) : Prop where
  unused : ∀ t ∈ T, t ∉ (u.usage u.instanceFields).methods
  declared : ∀ t ∈ T, ∃ m, u.methodTable t = some m ∧ m.modifiers.has .static = false ∧
    (m.modifiers.has .private = true ∨ m.modifiers.has .final = true) ∧ m.body.isSome = true ∧
    m.modifiers.has .abstract = false ∧ t.owner ∈ u.topLevelTypes
  calls : ∀ call ∈ (u.usage u.instanceFields).calls, call.caller ∈ T →
    call.callee ∈ T ∨ ∃ m, u.methodTable call.callee = some m ∧ m.modifiers.has .static = true

variable {u : CompilationUnit} {s : Settings} {σ : MethodSig} {T : Set MethodSig}

theorem notMem_usage_of_mem_reported (h : σ ∈ u.reported s) : σ ∉ u.analysis.usage := by
  obtain ⟨m, -, helig, hσ⟩ := mem_reported_iff.mp h
  obtain ⟨τ, hτ, hused, -⟩ := Method.isEligible_iff.mp helig
  obtain rfl : σ = τ := Option.some.inj (hσ.symm.trans hτ)
  exact hused

namespace Convertible

theorem exists_eligible (h : u.Convertible T) (hσ : σ ∈ T) {usage : List MethodSig}
    (hused : σ ∉ usage) :
    ∃ m, u.methodTable σ = some m ∧ m.isEligible usage u.topLevelTypes = true := by
  obtain ⟨m, hm, hstatic, hfixed, hbody, habstract, howner⟩ := h.declared σ hσ
  have hsig := (mem_methods_of_methodTable hm).2
  refine ⟨m, hm, Method.isEligible_iff.mpr ⟨σ, hsig, hused, hstatic, ?_, ?_, howner⟩⟩
  · rw [Method.isFixed, Bool.or_eq_true]
    exact hfixed
  · rw [Method.isAbstract, habstract, Bool.false_or, Option.isNone_eq_false_iff]
    exact hbody

open Classical in
theorem notMem_usage (h : u.Convertible T) (hσ : σ ∈ T) : σ ∉ u.analysis.usage := by
  let limit := u.analysis.usage.filter fun τ => τ ∉ T
  have hlimit : ∀ τ, τ ∈ limit ↔ τ ∈ u.analysis.usage ∧ τ ∉ T := by
    intro τ
    simp [limit]
  have hbelow : limit ⊆ u.analysis.usage := List.filter_subset_self _
  have hclosed : ClosedOverCalls u.methodTable u.topLevelTypes (u.usage u.instanceFields).calls
      limit := by
    intro call hcall hcaller
    by_cases hT : call.caller ∈ T
    · -- the caller was taken out, so its callee is in the set or static
      rcases h.calls call hcall hT with hin | ⟨m, hm, hstatic⟩
      · obtain ⟨m, hm, helig⟩ := h.exists_eligible hin fun hmem => ((hlimit _).mp hmem).2 hin
        exact MethodTable.needsNoInstance_iff.mpr ⟨m, hm, Or.inr helig⟩
      · exact MethodTable.needsNoInstance_iff.mpr ⟨m, hm, Or.inl hstatic⟩
    · have hunmarked : call.caller ∉ u.analysis.usage :=
        fun hmem => hcaller ((hlimit _).mpr ⟨hmem, hT⟩)
      exact MethodTable.needsNoInstance_anti hbelow
        (callClosure_closed _ _ _ _ call hcall hunmarked)
  have hstart : (u.usage u.instanceFields).methods ⊆ limit := by
    intro τ hτ
    exact (hlimit τ).mpr ⟨subset_callClosure _ _ _ _ hτ, fun hT => h.unused τ hT hτ⟩
  intro hmem
  exact ((hlimit σ).mp (callClosure_subset hclosed hstart hmem)).2 hσ

theorem mem_reported (h : u.Convertible T) (hσ : σ ∈ T) : σ ∈ u.reported s := by
  obtain ⟨m, hm, helig⟩ := h.exists_eligible hσ (h.notMem_usage hσ)
  obtain ⟨hdeclared, hsig⟩ := mem_methods_of_methodTable hm
  exact mem_reported_iff.mpr ⟨m, hdeclared, helig, hsig⟩

end Convertible

/-- **Calls of static methods.**  No method made static uses the instance itself, and what it calls
    on the instance is static in the unit that comes out; every set of methods that can be made
    static together is made static. -/
theorem run_static_calls_consistent_and_maximal (s : Settings) (hs : s.dryRun = false)
    (u : CompilationUnit) :
    (∀ σ ∈ u.reported s, σ ∉ (u.usage u.instanceFields).methods) ∧
      (∀ call ∈ (u.usage u.instanceFields).calls, call.caller ∈ u.reported s →
        ∃ m, (u.run s).unit.methodTable call.callee = some m ∧ m.modifiers.has .static = true) ∧
      ∀ T : Set MethodSig, u.Convertible T → ∀ t ∈ T, t ∈ u.reported s := by
  refine ⟨?_, ?_, ?_⟩
  · intro σ hσ hused
    exact notMem_usage_of_mem_reported hσ (subset_callClosure _ _ _ _ hused)
  · intro call hcall hcaller
    have hunmarked := notMem_usage_of_mem_reported hcaller
    exact static_after_run hs (callClosure_closed _ _ _ _ call hcall hunmarked)
  · intro T hT t ht
    exact hT.mem_reported ht

def pingPongSig (name : String) : MethodSig := ⟨"PingPong", name, [], "int"⟩

/-- A class in which `ping` and `pong` call each other, `score` reads a field and `report` calls
    `score`. -/
def pingPong : CompilationUnit :=
  let getter (name : String) (value : Expr) : MemberDraft :=
    .method { keywords := [.private], result := "int", name, body := some [.ret (some value)] }
  let callOf (name : String) : Expr := .resolvedCall none ⟨pingPongSig name, false⟩ []
  { classes := [ClassDraft.declare ⟨[], .class, "PingPong", none, none, [], [
      .field (.named "int" "points"),
      getter "ping" (callOf "pong"),
      getter "pong" (callOf "ping"),
      getter "score" (.fieldName "points" ⟨"PingPong", "points", "int"⟩),
      getter "report" (callOf "score")]⟩] }

/-- The cycle is made static, `score` and its caller are not. -/
theorem pingPong_static_calls :
    pingPong.Convertible {pingPongSig "ping", pingPongSig "pong"} ∧
      pingPongSig "ping" ∈ pingPong.reported {} ∧ pingPongSig "pong" ∈ pingPong.reported {} ∧
      (∃ m, (pingPong.run {}).unit.methodTable (pingPongSig "pong") = some m ∧
        m.modifiers.has .static = true) ∧
      pingPongSig "score" ∉ pingPong.reported {} ∧ pingPongSig "report" ∉ pingPong.reported {} := by
  obtain ⟨hunused, hcalls, hmax⟩ := run_static_calls_consistent_and_maximal {} rfl pingPong
  have hconv : pingPong.Convertible {pingPongSig "ping", pingPongSig "pong"} := by
    refine ⟨?_, ?_, ?_⟩
    · rintro t (rfl | rfl)
      · decide
      · decide
    · rintro t (rfl | rfl)
      · exact ⟨_, rfl, by decide⟩
      · exact ⟨_, rfl, by decide⟩
    · intro call hcall hcaller
      have hall : ∀ call ∈ (pingPong.usage pingPong.instanceFields).calls,
          call.callee = pingPongSig "ping" ∨ call.callee = pingPongSig "pong" ∨
            call.caller ≠ pingPongSig "ping" ∧ call.caller ≠ pingPongSig "pong" := by decide
      rcases hall call hcall with hping | hpong | ⟨hping, hpong⟩
      · exact Or.inl (Or.inl hping)
      · exact Or.inl (Or.inr hpong)
      · exact absurd hcaller (not_or.mpr ⟨hping, hpong⟩)
  have hping := hmax _ hconv _ (Or.inl rfl)
  have hpong := hmax _ hconv _ (Or.inr rfl)
  refine ⟨hconv, hping, hpong, ?_, fun h => hunused _ h (by decide), by decide⟩
  exact hcalls ⟨pingPongSig "ping", pingPongSig "pong"⟩ (by decide) hping

end CompilationUnit

end Receiverless
