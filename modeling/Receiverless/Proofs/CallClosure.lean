/-
  Receiverless/Proofs/CallClosure.lean
  ====================================
  **The call closure is the least closed set.**  A usage set is closed when no
  unmarked method calls, on the current instance, a method that keeps its
  instance.  Whether a callee keeps it is judged against the same set, and a
  larger set makes fewer methods eligible, so being closed is not a property of
  the edges alone.

  What makes the iteration work is that judging is antitone in the usage set.
  A caller that a round marks is therefore in every closed set above the start,
  although the round judges against a set that is still growing
  (`callClosure_subset`).  And a round that changes anything uses up an edge with
  an unmarked caller, so the bound on the number of rounds is never what ends
  the iteration: rounds repeated without a bound end at the same set
  (`callClosure_settles`), and that set is closed (`callClosure_closed`).

  A set that is least can be described without the edges' order, which is why
  the order and the repetition of edges cannot be seen in it
  (`callClosure_least`).
-/
import Mathlib.Data.List.Basic
import Receiverless.Analysis.CallClosure
import Receiverless.Draft.Class

namespace Receiverless

/-! ### Judging against a growing set -/

theorem Method.isEligible_iff {usage : List MethodSig} {topLevel : List String} {m : Method} :
    m.isEligible usage topLevel = true ↔
      ∃ σ, m.signature = some σ ∧ σ ∉ usage ∧ m.isStatic = false ∧ m.isFixed = true ∧
        m.isAbstract = false ∧ σ.owner ∈ topLevel := by
  unfold Method.isEligible Method.verdict
  cases hσ : m.signature with
  | none => simp
  | some σ =>
    constructor
    · intro h
      by_cases hused : σ ∈ usage
      · simp [hused] at h
      cases hstatic : m.isStatic with
      | true => simp [hused, hstatic] at h
      | false =>
        cases hfixed : m.isFixed with
        | false => simp [hused, hstatic, hfixed] at h
        | true =>
          cases habstract : m.isAbstract with
          | true => simp [hused, hstatic, hfixed, habstract] at h
          | false =>
            by_cases howner : σ.owner ∈ topLevel
            · exact ⟨σ, rfl, hused, rfl, rfl, rfl, howner⟩
            · simp [hused, hstatic, hfixed, habstract, howner] at h
    · rintro ⟨τ, hτ, hused, hstatic, hfixed, habstract, howner⟩
      obtain rfl := Option.some.inj hτ
      simp [hused, hstatic, hfixed, habstract, howner]

theorem Method.isEligible_eq_false {usage : List MethodSig} {topLevel : List String} {m : Method}
    (h : ∀ σ, m.signature = some σ → σ ∈ usage ∨ σ.owner ∉ topLevel) :
    m.isEligible usage topLevel = false := by
  rw [← Bool.not_eq_true]
  intro helig
  obtain ⟨σ, hσ, hunused, -, -, -, howner⟩ := Method.isEligible_iff.mp helig
  rcases h σ hσ with hused | hinner
  · exact hunused hused
  · exact hinner howner

theorem Method.isEligible_anti {usage usage' : List MethodSig} {topLevel : List String}
    {m : Method} (hsub : usage ⊆ usage') (h : m.isEligible usage' topLevel = true) :
    m.isEligible usage topLevel = true := by
  obtain ⟨σ, hσ, hused, hrest⟩ := Method.isEligible_iff.mp h
  exact Method.isEligible_iff.mpr ⟨σ, hσ, fun hmem => hused (hsub hmem), hrest⟩

theorem Method.verdict_congr {usage usage' : List MethodSig} {topLevel topLevel' : List String}
    (husage : ∀ σ, σ ∈ usage' ↔ σ ∈ usage) (htop : ∀ t, t ∈ topLevel' ↔ t ∈ topLevel) (m : Method) :
    m.verdict usage' topLevel' = m.verdict usage topLevel := by
  unfold Method.verdict
  simp only [husage, htop]

namespace MethodTable

variable {index : MethodTable} {topLevel topLevel' : List String} {usage usage' : List MethodSig}
  {callee : MethodSig}

theorem needsNoInstance_iff :
    index.needsNoInstance topLevel usage callee = true ↔
      ∃ m, index callee = some m ∧ (m.isStatic = true ∨ m.isEligible usage topLevel = true) := by
  unfold needsNoInstance
  cases index callee with
  | none => simp
  | some m => simp

theorem needsNoInstance_anti (hsub : usage ⊆ usage')
    (h : index.needsNoInstance topLevel usage' callee = true) :
    index.needsNoInstance topLevel usage callee = true := by
  obtain ⟨m, hm, hstatic | helig⟩ := needsNoInstance_iff.mp h
  · exact needsNoInstance_iff.mpr ⟨m, hm, Or.inl hstatic⟩
  · exact needsNoInstance_iff.mpr ⟨m, hm, Or.inr (Method.isEligible_anti hsub helig)⟩

theorem needsNoInstance_eq_false_iff :
    index.needsNoInstance topLevel usage callee = false ↔
      index callee = none ∨ ∃ m, index callee = some m ∧ m.isStatic = false ∧
        m.isEligible usage topLevel = false := by
  unfold needsNoInstance
  cases index callee with
  | none => simp
  | some m => simp

theorem needsNoInstance_congr (htop : ∀ t, t ∈ topLevel' ↔ t ∈ topLevel) (callee : MethodSig) :
    index.needsNoInstance topLevel' usage callee = index.needsNoInstance topLevel usage callee := by
  unfold needsNoInstance Method.isEligible
  simp only [Method.verdict_congr (fun _ => Iff.rfl) htop]

/-- What is looked up is declared, under the signature it is looked up by. -/
theorem ofMethods_eq_some {ms : List Method} {σ : MethodSig} {m : Method}
    (h : MethodTable.ofMethods ms σ = some m) : m ∈ ms ∧ m.signature = some σ := by
  have hmem : m ∈ ms.filter fun m => m.signature == some σ := List.mem_of_getLast? h
  simpa using hmem

end MethodTable

/-! ### One edge, one round -/

/-- The callers of the edges are marked, or they only call methods that need no instance. -/
def ClosedOverCalls (index : MethodTable) (topLevel : List String) (calls : List InstanceCall)
    (usage : List MethodSig) : Prop :=
  ∀ call ∈ calls, call.caller ∉ usage → index.needsNoInstance topLevel usage call.callee = true

section Closure

variable {index : MethodTable} {topLevel : List String} {calls : List InstanceCall}
  {usage limit : List MethodSig}

/-- What one edge can do: nothing, if it is in order, or mark its caller. -/
theorem closeCall_cases (index : MethodTable) (topLevel : List String) (usage : List MethodSig)
    (call : InstanceCall) :
    (closeCall index topLevel usage call = usage ∧ (call.caller ∉ usage →
        index.needsNoInstance topLevel usage call.callee = true)) ∨
      (closeCall index topLevel usage call = call.caller :: usage ∧ call.caller ∉ usage ∧
        index.needsNoInstance topLevel usage call.callee = false) := by
  unfold closeCall
  by_cases hcaller : call.caller ∈ usage
  · exact Or.inl ⟨if_pos hcaller, fun h => absurd hcaller h⟩
  · rw [if_neg hcaller]
    cases hcallee : index.needsNoInstance topLevel usage call.callee with
    | true => exact Or.inl ⟨if_pos rfl, fun _ => rfl⟩
    | false => exact Or.inr ⟨if_neg Bool.false_ne_true, hcaller, rfl⟩

theorem closeRound_cons (call : InstanceCall) :
    closeRound index topLevel (call :: calls) usage =
      closeRound index topLevel calls (closeCall index topLevel usage call) := rfl

theorem suffix_closeRound (index : MethodTable) (topLevel : List String)
    (calls : List InstanceCall) (usage : List MethodSig) :
    usage <:+ closeRound index topLevel calls usage := by
  induction calls generalizing usage with
  | nil => exact List.suffix_rfl
  | cons call calls ih =>
    rw [closeRound_cons]
    rcases closeCall_cases index topLevel usage call with ⟨hsame, -⟩ | ⟨hmark, -⟩
    · rw [hsame]
      exact ih usage
    · rw [hmark]
      exact (List.suffix_cons _ _).trans (ih _)

/-- A round that leaves the length as it was leaves the set as it was, and every edge is in
    order. -/
theorem closedOverCalls_of_length_eq
    (h : (closeRound index topLevel calls usage).length = usage.length) :
    ClosedOverCalls index topLevel calls usage := by
  induction calls generalizing usage with
  | nil =>
    intro call hcall
    cases hcall
  | cons call calls ih =>
    rw [closeRound_cons] at h
    rcases closeCall_cases index topLevel usage call with ⟨hsame, hok⟩ | ⟨hmark, -⟩
    · rw [hsame] at h
      intro call' hcall'
      rcases List.mem_cons.mp hcall' with rfl | hrest
      · exact hok
      · exact ih h call' hrest
    · -- the edge added its caller, and the rest of the round takes nothing away
      rw [hmark] at h
      have hle := (suffix_closeRound index topLevel calls (call.caller :: usage)).length_le
      rw [h, List.length_cons] at hle
      omega

/-- A round that changes the length marks the caller of an edge. -/
theorem exists_marked_of_length_ne
    (h : (closeRound index topLevel calls usage).length ≠ usage.length) :
    ∃ call ∈ calls, call.caller ∉ usage ∧
      call.caller ∈ closeRound index topLevel calls usage := by
  induction calls generalizing usage with
  | nil => exact absurd rfl h
  | cons call calls ih =>
    rw [closeRound_cons] at h ⊢
    rcases closeCall_cases index topLevel usage call with ⟨hsame, -⟩ | ⟨hmark, hcaller, -⟩
    · rw [hsame] at h ⊢
      obtain ⟨call', hcall', hnew⟩ := ih h
      exact ⟨call', List.mem_cons_of_mem _ hcall', hnew⟩
    · rw [hmark]
      exact ⟨call, List.mem_cons_self, hcaller,
        (suffix_closeRound index topLevel calls _).subset List.mem_cons_self⟩

/-- A round stays below every closed set that is above its start.  The round judges against a set
    below the limit, so a callee that it finds to keep its instance keeps it under the limit too. -/
theorem closeRound_subset (hlimit : ClosedOverCalls index topLevel calls limit)
    (h : usage ⊆ limit) : closeRound index topLevel calls usage ⊆ limit := by
  induction calls generalizing usage with
  | nil => exact h
  | cons call calls ih =>
    have hrest : ClosedOverCalls index topLevel calls limit :=
      fun call' hcall' => hlimit call' (List.mem_cons_of_mem _ hcall')
    rw [closeRound_cons]
    rcases closeCall_cases index topLevel usage call with ⟨hsame, -⟩ | ⟨hmark, -, hcallee⟩
    · rw [hsame]
      exact ih hrest h
    · rw [hmark]
      refine ih hrest (List.cons_subset.mpr ⟨?_, h⟩)
      by_contra hcaller
      have hlim := hlimit call List.mem_cons_self hcaller
      rw [MethodTable.needsNoInstance_anti h hlim] at hcallee
      cases hcallee

/-! ### All rounds -/

/-- The number of edges whose caller is not marked yet. -/
def pendingCalls (calls : List InstanceCall) (usage : List MethodSig) : Nat :=
  calls.countP fun call => call.caller ∉ usage

theorem pendingCalls_lt {usage' : List MethodSig} (hsub : usage ⊆ usage')
    (hnew : ∃ call ∈ calls, call.caller ∉ usage ∧ call.caller ∈ usage') :
    pendingCalls calls usage' < pendingCalls calls usage := by
  obtain ⟨call, hcall, hold, hmark⟩ := hnew
  have hmono : ∀ l : List InstanceCall, pendingCalls l usage' ≤ pendingCalls l usage := by
    intro l
    refine List.countP_mono_left fun x _ hx => ?_
    simp only [decide_eq_true_eq] at hx ⊢
    exact fun hmem => hx (hsub hmem)
  obtain ⟨before, after, rfl⟩ := List.append_of_mem hcall
  have hbefore := hmono before
  have hafter := hmono after
  simp only [pendingCalls, List.countP_append, List.countP_cons, hold, hmark] at hbefore hafter ⊢
  simp only [not_true_eq_false, not_false_eq_true, decide_true, decide_false, if_true, if_false,
    Bool.false_eq_true]
  omega

theorem closedOverCalls_of_pendingCalls (h : pendingCalls calls usage = 0) :
    ClosedOverCalls index topLevel calls usage := by
  intro call hcall hcaller
  have hnone := List.countP_eq_zero.mp h call hcall
  have hmarked : call.caller ∈ usage := by simpa using hnone
  exact absurd hmarked hcaller

theorem closeRound_eq_self (h : ClosedOverCalls index topLevel calls usage) :
    closeRound index topLevel calls usage = usage := by
  have hsub : closeRound index topLevel calls usage ⊆ usage :=
    closeRound_subset h (List.Subset.refl _)
  by_contra hne
  have hlen : (closeRound index topLevel calls usage).length ≠ usage.length := by
    intro hlen
    exact hne ((suffix_closeRound index topLevel calls usage).eq_of_length hlen.symm).symm
  obtain ⟨call, -, hold, hnew⟩ := exists_marked_of_length_ne hlen
  exact hold (hsub hnew)

/-- Rounds repeated from `usage` until one of them changes nothing end at `result`.  The number of
    rounds is not bounded in advance. -/
inductive Settles (round : List MethodSig → List MethodSig) :
    List MethodSig → List MethodSig → Prop where
  | done {usage : List MethodSig} (h : round usage = usage) : Settles round usage usage
  | again {usage result : List MethodSig} (h : round usage ≠ usage)
      (rest : Settles round (round usage) result) : Settles round usage result

theorem Settles.round_eq {round : List MethodSig → List MethodSig} {result : List MethodSig}
    (h : Settles round usage result) : round result = result := by
  induction h with
  | done h => exact h
  | again _ _ ih => exact ih

theorem closeRounds_settles (rounds : Nat) (usage : List MethodSig)
    (h : pendingCalls calls usage ≤ rounds) :
    Settles (closeRound index topLevel calls) usage
      (closeRounds index topLevel calls rounds usage) := by
  induction rounds generalizing usage with
  | zero =>
    apply Settles.done
    exact closeRound_eq_self (closedOverCalls_of_pendingCalls (Nat.le_zero.mp h))
  | succ rounds ih =>
    rw [closeRounds]
    by_cases hlen : (closeRound index topLevel calls usage).length = usage.length
    · rw [if_pos hlen]
      apply Settles.done
      exact closeRound_eq_self (closedOverCalls_of_length_eq hlen)
    · rw [if_neg hlen]
      have hlt := pendingCalls_lt (suffix_closeRound index topLevel calls usage).subset
        (exists_marked_of_length_ne hlen)
      apply Settles.again
      · intro heq
        exact hlen (congrArg List.length heq)
      · apply ih
        omega

theorem closeRounds_subset (hlimit : ClosedOverCalls index topLevel calls limit) (rounds : Nat)
    (h : usage ⊆ limit) : closeRounds index topLevel calls rounds usage ⊆ limit := by
  induction rounds generalizing usage with
  | zero => exact h
  | succ rounds ih =>
    rw [closeRounds]
    split
    · exact h
    · exact ih (closeRound_subset hlimit h)

theorem subset_closeRounds (rounds : Nat) (usage : List MethodSig) :
    usage ⊆ closeRounds index topLevel calls rounds usage := by
  induction rounds generalizing usage with
  | zero => exact List.Subset.refl _
  | succ rounds ih =>
    rw [closeRounds]
    split
    · exact List.Subset.refl _
    · exact List.Subset.trans (suffix_closeRound index topLevel calls usage).subset (ih _)

theorem callClosure_settles (index : MethodTable) (topLevel : List String)
    (calls : List InstanceCall) (usage : List MethodSig) :
    Settles (closeRound index topLevel calls) usage (callClosure index topLevel calls usage) :=
  closeRounds_settles _ _ List.countP_le_length

theorem callClosure_closed (index : MethodTable) (topLevel : List String)
    (calls : List InstanceCall) (usage : List MethodSig) :
    ClosedOverCalls index topLevel calls (callClosure index topLevel calls usage) := by
  apply closedOverCalls_of_length_eq
  rw [(callClosure_settles index topLevel calls usage).round_eq]

theorem subset_callClosure (index : MethodTable) (topLevel : List String)
    (calls : List InstanceCall) (usage : List MethodSig) :
    usage ⊆ callClosure index topLevel calls usage :=
  subset_closeRounds _ _

theorem callClosure_subset (hlimit : ClosedOverCalls index topLevel calls limit)
    (h : usage ⊆ limit) : callClosure index topLevel calls usage ⊆ limit :=
  closeRounds_subset hlimit _ h

/-- More calls and a larger start give a larger closure, in whatever order the calls come. -/
theorem callClosure_mono {topLevel' : List String} {calls' : List InstanceCall}
    {usage' : List MethodSig} (htop : ∀ t, t ∈ topLevel' ↔ t ∈ topLevel) (hcalls : calls ⊆ calls')
    (husage : usage ⊆ usage') :
    callClosure index topLevel calls usage ⊆ callClosure index topLevel' calls' usage' := by
  have hclosed := callClosure_closed index topLevel' calls' usage'
  refine callClosure_subset ?_ (List.Subset.trans husage (subset_callClosure _ _ _ _))
  intro call hcall hcaller
  rw [← MethodTable.needsNoInstance_congr htop]
  exact hclosed call (hcalls hcall) hcaller

/-! ### The least set that marks callers -/

/-- Every edge to a method that is not declared, or is neither static nor eligible under the set,
    has its caller in the set. -/
def MarksCallers (index : MethodTable) (topLevel : List String) (calls : List InstanceCall)
    (usage : List MethodSig) : Prop :=
  ∀ call ∈ calls, (index call.callee = none ∨ ∃ m, index call.callee = some m ∧
    m.isStatic = false ∧ m.isEligible usage topLevel = false) → call.caller ∈ usage

theorem marksCallers_iff :
    MarksCallers index topLevel calls usage ↔ ClosedOverCalls index topLevel calls usage := by
  constructor
  · intro h call hcall hcaller
    by_contra hneeds
    rw [Bool.not_eq_true] at hneeds
    exact hcaller (h call hcall (MethodTable.needsNoInstance_eq_false_iff.mp hneeds))
  · intro h call hcall hstays
    by_contra hcaller
    have hfalse := MethodTable.needsNoInstance_eq_false_iff.mpr hstays
    rw [h call hcall hcaller] at hfalse
    cases hfalse

/-- **The closure over calls.**  Rounds that are repeated until nothing changes do end, and they end
    at the closure.  It contains the start and marks the callers of methods that keep their
    instance; every other set that does so is above it; and it is the same set for all lists with
    the same edges, in any order and any number of times each. -/
theorem callClosure_least (index : MethodTable) (topLevel : List String)
    (calls : List InstanceCall) (usage : List MethodSig) :
    Settles (closeRound index topLevel calls) usage (callClosure index topLevel calls usage) ∧
      usage ⊆ callClosure index topLevel calls usage ∧
      MarksCallers index topLevel calls (callClosure index topLevel calls usage) ∧
      (∀ limit, usage ⊆ limit → MarksCallers index topLevel calls limit →
        callClosure index topLevel calls usage ⊆ limit) ∧
      ∀ calls', (∀ call, call ∈ calls' ↔ call ∈ calls) → ∀ σ,
        σ ∈ callClosure index topLevel calls' usage ↔
          σ ∈ callClosure index topLevel calls usage := by
  refine ⟨callClosure_settles _ _ _ _, subset_callClosure _ _ _ _, ?_, ?_, ?_⟩
  · exact marksCallers_iff.mpr (callClosure_closed _ _ _ _)
  · intro limit hstart hmarks
    exact callClosure_subset (marksCallers_iff.mp hmarks) hstart
  · intro calls' hsame σ
    constructor
    · apply callClosure_mono (fun _ => Iff.rfl) _ (List.Subset.refl _)
      intro call hcall
      exact (hsame call).mp hcall
    · apply callClosure_mono (fun _ => Iff.rfl) _ (List.Subset.refl _)
      intro call hcall
      exact (hsame call).mpr hcall

def chainSig (name : String) : MethodSig := ⟨"Chain", name, [], "int"⟩

/-- Private methods that need no instance of their own. -/
def chainTable : MethodTable :=
  MethodTable.ofMethods (["first", "second", "third", "apart"].map fun name =>
    MethodDraft.declareIn "Chain" { keywords := [.private], result := "int", name })

/-- `first` calls `second`, which calls `third`. -/
def chainCalls : List InstanceCall :=
  [⟨chainSig "first", chainSig "second"⟩, ⟨chainSig "second", chainSig "third"⟩]

/-- If `third` needs the instance, so do `second` and `first`, and `apart` does not; more edges of
    the same kind change nothing. -/
theorem chain_callClosure :
    let marked := ["first", "second", "third"].map chainSig
    let closure (calls : List InstanceCall) :=
      callClosure chainTable ["Chain"] calls [chainSig "third"]
    [chainSig "third"] ⊆ marked ∧ MarksCallers chainTable ["Chain"] chainCalls marked ∧
      closure chainCalls ⊆ marked ∧ chainSig "first" ∈ closure chainCalls ∧
      (∀ call, call ∈ chainCalls.reverse ++ chainCalls ↔ call ∈ chainCalls) ∧
      ∀ σ, σ ∈ closure (chainCalls.reverse ++ chainCalls) ↔ σ ∈ closure chainCalls := by
  obtain ⟨-, -, -, hleast, horder⟩ :=
    callClosure_least chainTable ["Chain"] chainCalls [chainSig "third"]
  have hstart : [chainSig "third"] ⊆ ["first", "second", "third"].map chainSig := by decide
  have hmarks : MarksCallers chainTable ["Chain"] chainCalls
      (["first", "second", "third"].map chainSig) := by
    rw [marksCallers_iff]
    unfold ClosedOverCalls
    decide
  have hsame : ∀ call, call ∈ chainCalls.reverse ++ chainCalls ↔ call ∈ chainCalls := by
    intro call
    simp
  exact ⟨hstart, hmarks, hleast _ hstart hmarks, by decide, hsame, horder _ hsame⟩

end Closure

end Receiverless
