/-
  Receiverless/Proofs/LocalMethods.lean
  =====================================
  **Methods of local classes in the table.**  The table that calls are looked up
  in holds the methods of member classes only.  The methods of local and
  anonymous classes are left out, because they are never made static: a call of
  one of them is treated like a call of an unknown method.

  For a resolved unit this costs nothing.  The closure over calls takes the same
  course with a table of all methods (`callClosure_fullTable`), if

    * signatures name the class that declares the method (`OwnersMatch`),
    * classes in bodies have other types than the classes outside of them
      (`LocalTypesApart`), and
    * calls and declarations agree on what is static (`CallsMatch`).

  A signature is then either one of member classes or one of classes in bodies.
  In the first case both tables find the same declarations in the same order
  (`fullTable_eq_methodTable`).  In the second the smaller table finds nothing,
  and what the larger one finds is no reason to spare the caller: it is not
  static, as the call says, and not eligible, as its class is not at the top level.
-/
import Receiverless.Proofs.FramePaths
import Receiverless.Proofs.InnerMethods

namespace Receiverless

/-! ### Closures over two tables -/

section Tables

variable {index index' : MethodTable} {topLevel : List String} {calls : List InstanceCall}

/-- Two tables that judge the callees of the edges alike, against every set. -/
def MethodTable.AgreeOn (index index' : MethodTable) (topLevel : List String)
    (calls : List InstanceCall) : Prop :=
  ∀ call ∈ calls, ∀ usage, index.needsNoInstance topLevel usage call.callee =
    index'.needsNoInstance topLevel usage call.callee

theorem closeRound_congr (h : index.AgreeOn index' topLevel calls) (usage : List MethodSig) :
    closeRound index topLevel calls usage = closeRound index' topLevel calls usage := by
  apply List.foldl_ext
  intro marked call hcall
  unfold closeCall
  rw [h call hcall marked]

theorem closeRounds_congr (h : index.AgreeOn index' topLevel calls) (rounds : Nat)
    (usage : List MethodSig) :
    closeRounds index topLevel calls rounds usage =
      closeRounds index' topLevel calls rounds usage := by
  induction rounds generalizing usage with
  | zero => rfl
  | succ rounds ih => rw [closeRounds, closeRounds, closeRound_congr h, ih]

theorem callClosure_congr (h : index.AgreeOn index' topLevel calls) (usage : List MethodSig) :
    callClosure index topLevel calls usage = callClosure index' topLevel calls usage :=
  closeRounds_congr h _ usage

end Tables

/-! ### Methods in local bodies -/

namespace Part

/-- Whether the part is the body of a local or an anonymous class. -/
def isLocalBody : Part → Bool
  | .stmt (.localClass _) | .anonymous _ => true
  | _ => false

variable {p q : Part} {d : Member} {m : Method}

theorem isMemberClass_of_isClassBody (hclass : p.isClassBody = true)
    (hlocal : p.isLocalBody = false) : p.isMemberClass = true := by
  unfold isClassBody at hclass
  split at hclass
  · rfl
  · cases hlocal
  · cases hlocal
  · cases hclass

/-- A way down to a member that passes no local body passes member classes only. -/
theorem Reaches.through_members (h : p.Reaches isLocalBody (.member d)) :
    p.Reaches (fun x => !x.isMemberClass) (.member d) := by
  generalize hq : Part.member d = q at h
  induction h generalizing d with
  | refl => exact Reaches.refl
  | @tail y z hy hstep ih =>
    subst hq
    -- the construct around a member is a class body, and here it is no local one
    have hmember := isMemberClass_of_isClassBody (isClassBody_of_member_mem hstep.2) hstep.1
    obtain ⟨c, rfl⟩ := exists_eq_of_isMemberClass hmember
    exact (ih rfl).tail rfl hstep.2

/-- Below a construct that is no class body, methods stand in local bodies. -/
theorem exists_localBody_of_holds (hp : p.isClassBody = false) (hq : q ∈ p.children)
    (hm : q.Holds (.member (.method m))) :
    ∃ x, x.isLocalBody = true ∧ p.Holds x ∧ x.Holds (.member (.method m)) := by
  have hheld : p.Holds q := holds_of_mem_children hq
  have hway : q.Reaches isLocalBody (.member (.method m)) ∨ _ := hm.reaches_or
  rcases hway with hopen | ⟨x, hx, hqx, hxm⟩
  · exfalso
    rcases Relation.ReflTransGen.cases_head hopen.through_members with heq | ⟨y, hstep, -⟩
    · rw [isClassBody_of_member_mem (heq ▸ hq)] at hp
      cases hp
    · cases q with
      | member d =>
        rw [isClassBody_of_member_mem hq] at hp
        cases hp
      | _ => cases hstep.1
  · exact ⟨x, hx, hheld.trans hqx, hxm⟩

/-- If no method in a local body passes a test, the methods that pass it are declared in member
    classes, and they are listed in the same order. -/
theorem filter_methods (test : Method → Bool) (d : Member)
    (hlocal : ∀ x, x.isLocalBody = true → (Part.member d).Holds x →
      ∀ m, x.Holds (.member (.method m)) → test m = false) :
    (Part.member d).methods.filter test = d.declaredMethods.filter test := by
  generalize hp : Part.member d = p at hlocal
  induction p using Part.induction generalizing d with
  | step p ih =>
    subst hp
    have hbelow : (Part.member d).isClassBody = false →
        ((Part.member d).children.flatMap methods).filter test = [] := by
      intro hbody
      rw [List.filter_eq_nil_iff]
      intro m hm
      obtain ⟨q, hq, hm⟩ := List.mem_flatMap.mp hm
      obtain ⟨x, hx, hheld, hxm⟩ :=
        exists_localBody_of_holds hbody hq ((mem_methods_iff m q).mp hm)
      simp [hlocal x hx hheld m hxm]
    cases d with
    | nested c =>
      have hmember : ∀ d ∈ c.members,
          (Part.member d).methods.filter test = d.declaredMethods.filter test := by
        intro d hd
        have hchild : Part.member d ∈ (Part.member (.nested c)).children := List.mem_map_of_mem hd
        refine ih _ hchild d rfl ?_
        intro x hx hheld
        exact hlocal x hx ((holds_of_mem_children hchild).trans hheld)
      have hdeclared : (Member.nested c).declaredMethods =
          c.members.flatMap Member.declaredMethods := by
        rw [← declaredMethodsOfAll_eq_flatMap]
        cases c
        rfl
      rw [methods_nested, hdeclared, List.filter_flatMap, List.filter_flatMap]
      exact List.flatMap_congr hmember
    | _ =>
      -- the member itself, if it is a method, and nothing of what is below it
      rw [methods_eq, List.filter_append, hbelow rfl, List.append_nil]
      rfl

def callTarget? : Part → Option CallTarget
  | .expr (.call _ _ _ target _) => target
  | _ => none

/-- A call agrees with the table on whether its target is static, if the target is declared. -/
def CallMatches (index : MethodTable) (p : Part) : Prop :=
  ∀ target ∈ p.callTarget?, ∀ m ∈ index target.signature, target.isStatic = m.isStatic

instance (index : MethodTable) (p : Part) : Decidable (p.CallMatches index) :=
  inferInstanceAs (Decidable (∀ target ∈ p.callTarget?, ∀ m ∈ index target.signature,
    target.isStatic = m.isStatic))

theorem callTarget?_of_mem_calls {n : Node} {frames : List Frame} {call : InstanceCall}
    (hn : n ∈ p.lead ++ p.trail) (hcall : call ∈ n.calls frames) :
    p.callTarget? = some ⟨call.callee, false⟩ := by
  unfold Node.calls at hcall
  split at hcall
  · obtain ⟨caller, -, rfl⟩ := List.mem_map.mp hcall
    cases p with
    | expr e =>
      cases e with
      | call receiver name args target span =>
        obtain ⟨-, -, htarget⟩ := Node.call.inj (List.mem_singleton.mp hn)
        exact htarget.symm
      | _ => simp [lead, trail] at hn
    | stmt s => cases hn
    | anonymous body => cases hn
    | member d => cases d <;> simp [lead, trail] at hn
  · cases hcall

end Part

/-! ### The table of all methods -/

namespace CompilationUnit

def fullTable (u : CompilationUnit) : MethodTable :=
  MethodTable.ofMethods (u.classes.flatMap fun c => (Part.member (.nested c)).methods)

theorem fullTable_eq (u : CompilationUnit) :
    u.fullTable = MethodTable.ofMethods u.outline.methods := by
  rw [fullTable, methods_outline]

/-- A top-level class, or a member class of one, at any depth below it. -/
def IsMemberClass (u : CompilationUnit) (c : ClassDecl) : Prop :=
  ∃ top ∈ u.classes,
    (Part.member (.nested top)).Reaches (fun p => !p.isMemberClass) (.member (.nested c))

/-- No class in a local body, the class with that body included, has the type of a member class. -/
def LocalTypesApart (u : CompilationUnit) : Prop :=
  ∀ c ∈ u.classes, ∀ x, (Part.member (.nested c)).Holds x → x.isLocalBody = true →
    ∀ body, x.Holds body → ∀ type ∈ body.classType?, ∀ outer, u.IsMemberClass outer →
      type ≠ outer.type

/-- Every resolved call of a declared method says of it whether it is static. -/
def CallsMatch (u : CompilationUnit) : Prop :=
  ∀ c ∈ u.classes, ∀ p, (Part.member (.nested c)).Holds p → p.CallMatches u.fullTable

/-- A method in a local body is declared under the signature. -/
def DeclaresLocally (u : CompilationUnit) (σ : MethodSig) : Prop :=
  ∃ c ∈ u.classes, ∃ x, (Part.member (.nested c)).Holds x ∧ x.isLocalBody = true ∧
    ∃ m, x.Holds (.member (.method m)) ∧ m.signature = some σ

variable {u : CompilationUnit} {σ : MethodSig} {m : Method}

theorem fullTable_eq_methodTable (hlocal : ¬ u.DeclaresLocally σ) :
    u.fullTable σ = u.methodTable σ := by
  have hclass : ∀ c ∈ u.classes,
      (Part.member (.nested c)).methods.filter (fun m => m.signature == some σ) =
        (declaredMethodsOfAll c.members).filter fun m => m.signature == some σ := by
    intro c hc
    have hfilter := Part.filter_methods (fun m => m.signature == some σ) (.nested c) (by
      intro x hx hheld m hm
      rw [beq_eq_false_iff_ne]
      intro hσ
      exact hlocal ⟨c, hc, x, hheld, hx, m, hm, hσ⟩)
    rw [hfilter]
    cases c
    rfl
  unfold fullTable methodTable MethodTable.ofMethods declaredMethods
  rw [List.filter_flatMap, List.filter_flatMap, List.flatMap_congr hclass]

theorem owner_ne_of_declaresLocally (howners : u.OwnersMatch) (hapart : u.LocalTypesApart)
    (hlocal : u.DeclaresLocally σ) {outer : ClassDecl} (houter : u.IsMemberClass outer) :
    σ.owner ≠ outer.type := by
  obtain ⟨c, hc, x, hheld, hx, m, hm, hσ⟩ := hlocal
  -- the class that declares the method is the local one or lies in its body
  rcases Relation.ReflTransGen.cases_tail hm with heq | ⟨body, hbody, hstep⟩
  · rw [← heq] at hx
    cases hx
  · have howner : body.classType? = some σ.owner :=
      howners c hc body (hheld.trans hbody) m (Part.mem_declared_iff.mpr hstep.2) σ hσ
    exact hapart c hc x hheld hx body hbody σ.owner howner outer houter

theorem exists_owner_of_mem_declaredMethods (howners : u.OwnersMatch)
    (hm : m ∈ u.declaredMethods) (hσ : m.signature = some σ) :
    ∃ outer, u.IsMemberClass outer ∧ σ.owner = outer.type := by
  obtain ⟨c, hc, hreaches⟩ := exists_reaches_of_mem_declaredMethods hm
  rcases Relation.ReflTransGen.cases_tail hreaches with heq | ⟨body, hbody, hclass, hstep⟩
  · cases heq
  · obtain ⟨outer, rfl⟩ := Part.exists_eq_of_isMemberClass (by simpa using hclass)
    refine ⟨outer, ⟨c, hc, hbody⟩, ?_⟩
    have howner : some outer.type = some σ.owner :=
      howners c hc _ (Part.Reaches.holds hbody) m (Part.mem_declared_iff.mpr hstep) σ hσ
    exact (Option.some.inj howner).symm

theorem methodTable_eq_none (howners : u.OwnersMatch) (hapart : u.LocalTypesApart)
    (hlocal : u.DeclaresLocally σ) : u.methodTable σ = none := by
  rw [Option.eq_none_iff_forall_ne_some]
  intro m hm
  obtain ⟨hdeclared, hσ⟩ := MethodTable.ofMethods_eq_some hm
  obtain ⟨outer, houter, howner⟩ := exists_owner_of_mem_declaredMethods howners hdeclared hσ
  exact owner_ne_of_declaresLocally howners hapart hlocal houter howner

theorem isEligible_local (howners : u.OwnersMatch) (hapart : u.LocalTypesApart)
    (hlocal : u.DeclaresLocally σ) (hσ : m.signature = some σ) (usage : List MethodSig) :
    m.isEligible usage u.topLevelTypes = false := by
  apply Method.isEligible_eq_false
  intro τ hτ
  obtain rfl : σ = τ := Option.some.inj (hσ.symm.trans hτ)
  refine Or.inr fun htop => ?_
  obtain ⟨c, hc, howner⟩ := List.mem_map.mp htop
  exact owner_ne_of_declaresLocally howners hapart hlocal ⟨c, hc, Part.Reaches.refl⟩ howner.symm

theorem exists_call_of_mem_calls {fields : List FieldSig} {call : InstanceCall}
    (h : call ∈ (u.usage fields).calls) :
    ∃ c ∈ u.classes, ∃ p, (Part.member (.nested c)).Holds p ∧
      p.callTarget? = some ⟨call.callee, false⟩ := by
  have hwalk : call ∈ u.outline.collect (fun frames n => n.calls frames) [] := h
  rw [Node.sparse_calls.collect_unit] at hwalk
  obtain ⟨c, hc, hcall⟩ := List.mem_flatMap.mp hwalk
  obtain ⟨frames, p, hdown, n, hn, hedge⟩ :=
    (Part.mem_collect_iff Node.sparse_calls call _ []).mp hcall
  exact ⟨c, hc, p, Part.Descends.holds hdown, Part.callTarget?_of_mem_calls hn hedge⟩

theorem agreeOn_fullTable (howners : u.OwnersMatch) (hapart : u.LocalTypesApart)
    (hcalls : u.CallsMatch) (fields : List FieldSig) :
    u.fullTable.AgreeOn u.methodTable u.topLevelTypes (u.usage fields).calls := by
  intro call hcall usage
  by_cases hlocal : u.DeclaresLocally call.callee
  · have hsmall : u.methodTable.needsNoInstance u.topLevelTypes usage call.callee = false :=
      MethodTable.needsNoInstance_eq_false_iff.mpr
        (Or.inl (methodTable_eq_none howners hapart hlocal))
    rw [hsmall, MethodTable.needsNoInstance_eq_false_iff]
    cases hfound : u.fullTable call.callee with
    | none => exact Or.inl rfl
    | some m =>
      obtain ⟨c, hc, p, hheld, htarget⟩ := exists_call_of_mem_calls hcall
      have hstatic : false = m.isStatic := hcalls c hc p hheld _ htarget m hfound
      obtain ⟨-, hσ⟩ := MethodTable.ofMethods_eq_some hfound
      exact Or.inr ⟨m, rfl, hstatic.symm, isEligible_local howners hapart hlocal hσ usage⟩
  · unfold MethodTable.needsNoInstance
    rw [fullTable_eq_methodTable hlocal]

/-- **Local methods may be left out of the table.**  In a resolved unit the closure over its calls
    is the same with the table of all methods, from every start, and so is the usage set of the
    analysis. -/
theorem callClosure_fullTable (u : CompilationUnit) (howners : u.OwnersMatch)
    (hapart : u.LocalTypesApart) (hcalls : u.CallsMatch) :
    (∀ fields usage, callClosure u.fullTable u.topLevelTypes (u.usage fields).calls usage =
        callClosure u.methodTable u.topLevelTypes (u.usage fields).calls usage) ∧
      u.analysis.usage = callClosure u.fullTable u.topLevelTypes (u.usage u.instanceFields).calls
        (u.usage u.instanceFields).methods := by
  have hclosure : ∀ fields usage,
      callClosure u.fullTable u.topLevelTypes (u.usage fields).calls usage =
        callClosure u.methodTable u.topLevelTypes (u.usage fields).calls usage := by
    intro fields usage
    exact callClosure_congr (agreeOn_fullTable howners hapart hcalls fields) usage
  exact ⟨hclosure, (hclosure _ _).symm⟩

def clerkSig (name : String) : MethodSig := ⟨"Bank$1Clerk", name, [], "int"⟩

/-- `class Bank { private int open() { class Clerk { int rank() { return level(); } int level()
    { return 0; } } return 0; } private int audit() { return open(); } class Vault {} }` -/
def bankClass : ClassDecl :=
  let method (keywords : List Keyword) (name : String) (body : List Stmt) : MemberDraft :=
    .method { keywords, result := "int", name, body := some body }
  let zero : Stmt := .ret (some (.literal (.int 0)))
  let calls (callee : MethodSig) : Stmt := .ret (some (.resolvedCall none ⟨callee, false⟩ []))
  ClassDraft.declare ⟨[], .class, "Bank", none, none, [], [
    method [.private] "open" [
      .localClass (ClassDraft.declare ⟨[], .class, "Clerk", some "Bank$1Clerk", none, [], [
        method [] "rank" [calls (clerkSig "level")], method [] "level" [zero]]⟩), zero],
    method [.private] "audit" [calls ⟨"Bank", "open", [], "int"⟩],
    .nested ⟨[], .class, "Vault", none, none, [], []⟩]⟩

def bank : CompilationUnit where
  classes := [bankClass]

theorem bank_ownersMatch : bank.OwnersMatch := by
  intro c hc
  obtain rfl := List.mem_singleton.mp hc
  refine Part.forall_holds_of_level 6 rfl ?_
  decide

theorem bank_callsMatch : bank.CallsMatch := by
  intro c hc
  rw [fullTable_eq]
  obtain rfl := List.mem_singleton.mp hc
  refine Part.forall_holds_of_level 6 rfl ?_
  decide

theorem bank_localTypesApart : bank.LocalTypesApart := by
  have hmember : ∀ p, (Part.member (.nested bankClass)).Holds p → p.isMemberClass = true →
      ∀ type ∈ p.classType?, type = "Bank" ∨ type = "Bank.Vault" := by
    refine Part.forall_holds_of_level 6 rfl ?_
    decide
  have hlocal : ∀ x, (Part.member (.nested bankClass)).Holds x → x.isLocalBody = true →
      (x.level 4).isEmpty = true ∧
        ((List.range 4).flatMap fun k => (x.level k).filterMap Part.classType?) =
          ["Bank$1Clerk"] := by
    refine Part.forall_holds_of_level 6 rfl ?_
    decide
  rintro c hc x hx hbody body hheld type htype outer ⟨top, htop, hreaches⟩ rfl
  obtain rfl := List.mem_singleton.mp hc
  obtain rfl := List.mem_singleton.mp htop
  obtain ⟨hend, htypes⟩ := hlocal x hx hbody
  have hclerk : ∀ body, x.Holds body → ∀ type ∈ body.classType?, type = "Bank$1Clerk" := by
    refine Part.forall_holds_of_level 4 (List.isEmpty_iff.mp hend) ?_
    intro k hk body hbody type htype
    apply List.mem_singleton.mp
    rw [← htypes]
    exact List.mem_flatMap.mpr
      ⟨k, List.mem_range.mpr hk, List.mem_filterMap.mpr ⟨body, hbody, htype⟩⟩
  have htype := hclerk body hheld _ htype
  rcases hmember _ (Part.Reaches.holds hreaches) rfl _ rfl with heq | heq
  · rw [heq] at htype
    revert htype
    decide
  · rw [heq] at htype
    revert htype
    decide

/-- The table of the analysis does not know `level`, and its caller is marked all the same. -/
theorem bank_callClosure_fullTable :
    bank.OwnersMatch ∧ bank.LocalTypesApart ∧ bank.CallsMatch ∧
      (bank.methodTable (clerkSig "level")).isNone = true ∧
      (bank.fullTable (clerkSig "level")).isSome = true ∧
      callClosure bank.fullTable bank.topLevelTypes (bank.usage []).calls [] =
        [clerkSig "rank"] := by
  obtain ⟨hclosure, -⟩ :=
    callClosure_fullTable bank bank_ownersMatch bank_localTypesApart bank_callsMatch
  refine ⟨bank_ownersMatch, bank_localTypesApart, bank_callsMatch, by decide, ?_, ?_⟩
  · rw [fullTable_eq]
    decide
  · rw [hclosure]
    decide

end CompilationUnit

end Receiverless
