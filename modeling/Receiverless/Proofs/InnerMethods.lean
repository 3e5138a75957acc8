/-
  Receiverless/Proofs/InnerMethods.lean
  =====================================
  **Only the direct methods of top-level classes change.**  The walk of the pass
  comes to every method of a unit and does not know in what kind of class it
  stands.  What keeps it away from the methods of nested, local and anonymous
  classes is a comparison of texts: the owner in the method's signature has to be
  one of the top-level types.

  So two things are asked of a unit: signatures name the class that declares the
  method (`OwnersMatch`), and no inner class has the type of a top-level class
  (`InnerTypesApart`).  Then no method in an inner class is eligible, at whatever
  depth and inside of whatever construct, and a run leaves all of them as they
  are (`run_keeps_inner_methods`).
-/
import Receiverless.Proofs.Blanking

namespace Receiverless

/-! ### Classes and the methods they declare -/

namespace Part

/-- The type of the class that a part is the body of.  An anonymous class may have none. -/
def classType? : Part → Option String
  | .member (.nested c) => some c.type
  | .stmt (.localClass c) => some c.type
  | .anonymous body => body.type
  | _ => none

/-- The methods that a class body declares directly. -/
def declared (body : Part) : List Method := body.children.filterMap method?

/-- The methods declared directly in a body have its type as owner, as far as they are resolved. -/
def OwnsMethods (body : Part) : Prop :=
  ∀ m ∈ body.declared, ∀ σ ∈ m.signature, body.classType? = some σ.owner

instance (body : Part) : Decidable body.OwnsMethods :=
  inferInstanceAs (Decidable (∀ m ∈ body.declared, ∀ σ ∈ m.signature,
    body.classType? = some σ.owner))

theorem mem_declared_iff {body : Part} {m : Method} :
    m ∈ body.declared ↔ .member (.method m) ∈ body.children := by
  rw [declared, List.mem_filterMap]
  constructor
  · rintro ⟨q, hq, hm⟩
    exact eq_of_method?_eq_some hm ▸ hq
  · intro hm
    exact ⟨_, hm, rfl⟩

end Part

namespace CompilationUnit

def OwnersMatch (u : CompilationUnit) : Prop :=
  ∀ c ∈ u.classes, ∀ body, (Part.member (.nested c)).Holds body → body.OwnsMethods

/-- No class nested in a top-level class or declared in one of its bodies has the type of a
    top-level class. -/
def InnerTypesApart (u : CompilationUnit) : Prop :=
  ∀ c ∈ u.classes, ∀ d ∈ c.members, ∀ body, (Part.member d).Holds body →
    ∀ type ∈ body.classType?, type ∉ u.topLevelTypes

variable {u : CompilationUnit} {c : ClassDecl} {d : Member} {p body : Part} {m : Method}

theorem owner_notMem_topLevelTypes (howners : u.OwnersMatch) (hapart : u.InnerTypesApart)
    (hc : c ∈ u.classes) (hd : d ∈ c.members) (hbody : (Part.member d).Holds body)
    (hm : .member (.method m) ∈ body.children) {σ : MethodSig} (hσ : m.signature = some σ) :
    σ.owner ∉ u.topLevelTypes := by
  have hheld : (Part.member (.nested c)).Holds body :=
    (Part.holds_of_mem_children (List.mem_map_of_mem hd)).trans hbody
  apply hapart c hc d hd body hbody
  exact howners c hc body hheld m (Part.mem_declared_iff.mpr hm) σ hσ

theorem isEligible_inner (howners : u.OwnersMatch) (hapart : u.InnerTypesApart)
    (hc : c ∈ u.classes) (hd : d ∈ c.members) (hbody : (Part.member d).Holds body)
    (hm : .member (.method m) ∈ body.children) : u.analysis.isEligible m = false := by
  apply Method.isEligible_eq_false
  intro σ hσ
  exact Or.inr (owner_notMem_topLevelTypes howners hapart hc hd hbody hm hσ)

/-- Of the methods in a member, only the member itself can be eligible. -/
theorem isEligible_below (howners : u.OwnersMatch) (hapart : u.InnerTypesApart)
    (hc : c ∈ u.classes) (hd : d ∈ c.members) (hp : (Part.member d).Holds p) :
    ∀ q ∈ p.children, ∀ m ∈ q.methods, u.analysis.isEligible m = false := by
  intro q hq m hm
  induction p using Part.induction generalizing q with
  | step p ih =>
    rw [Part.methods_eq] at hm
    rcases List.mem_append.mp hm with hself | hbelow
    · have hmethod : q = .member (.method m) := Part.eq_of_method?_eq_some (by simpa using hself)
      exact isEligible_inner howners hapart hc hd hp (hmethod ▸ hq)
    · obtain ⟨r, hr, hm⟩ := List.mem_flatMap.mp hbelow
      exact ih q hq (hp.tail rfl hq) r hr hm

end CompilationUnit

/-! ### Positions inside of a member -/

theorem Part.at?_append (p : Part) (path rest : List Nat) :
    p.at? (path ++ rest) = (p.at? path).bind fun q => q.at? rest := by
  induction path generalizing p with
  | nil => rfl
  | cons i path ih =>
    rw [List.cons_append, Part.at?, Part.at?]
    cases p.children[i]? with
    | none => rfl
    | some q => exact ih q

namespace CompilationUnit

variable {u : CompilationUnit} {body : Part} {path : List Nat}

/-- A path of more than one step leads into a member of a top-level class. -/
theorem exists_member_of_at? (h : u.at? path = some body) (hinner : 1 < path.length) :
    ∃ c ∈ u.classes, ∃ d ∈ c.members, (Part.member d).Holds body := by
  rcases path with _ | ⟨i, _ | ⟨j, path⟩⟩
  · cases h
  · simp at hinner
  · rw [at?] at h
    obtain ⟨c, hc, hbody⟩ := Option.bind_eq_some_iff.mp h
    rw [Part.at?] at hbody
    obtain ⟨q, hq, hbody⟩ := Option.bind_eq_some_iff.mp hbody
    obtain ⟨d, hd, rfl⟩ := List.mem_map.mp (List.mem_of_getElem? hq)
    exact ⟨c, List.mem_of_getElem? hc, d, hd, Part.holds_of_at? hbody⟩

theorem methodAt?_append {place : Nat} {m : Method} (h : u.at? path = some body)
    (hm : body.children[place]? = some (.member (.method m))) :
    u.methodAt? (path ++ [place]) = some m := by
  rcases path with _ | ⟨i, path⟩
  · cases h
  · rw [at?] at h
    obtain ⟨c, hc, hbody⟩ := Option.bind_eq_some_iff.mp h
    rw [methodAt?, List.cons_append, at?, hc, Option.bind_some, Part.at?_append, hbody,
      Option.bind_some, Part.at?, hm]
    rfl

/-! ### The run -/

theorem restyle_inner (howners : u.OwnersMatch) (hapart : u.InnerTypesApart) {c : ClassDecl}
    {d : Member} (hc : c ∈ u.classes) (hd : d ∈ c.members) (hbody : (Part.member d).Holds body)
    {m : Method} (hm : .member (.method m) ∈ body.children) (s : Settings) :
    m.restyle (u.analysis.style s) = m := by
  have hkept : (Part.member (.method m)).Kept (u.analysis.style s) := by
    apply Part.kept_of_methods
    intro m' hm'
    have helig := isEligible_below howners hapart hc hd hbody _ hm m' hm'
    simp [Analysis.style, helig]
  rw [Part.kept_member, Member.restyle_method] at hkept
  exact Member.method.inj hkept

theorem filterMap_change?_member (howners : u.OwnersMatch) (hapart : u.InnerTypesApart)
    {c : ClassDecl} {d : Member} (hc : c ∈ u.classes) (hd : d ∈ c.members) (s : Settings) :
    (Part.member d).methods.filterMap (u.analysis.change? s) =
      (Part.member d).method?.toList.filterMap (u.analysis.change? s) := by
  have hbelow : ((Part.member d).children.flatMap Part.methods).filterMap
      (u.analysis.change? s) = [] := by
    rw [List.filterMap_eq_nil_iff]
    intro m hm
    obtain ⟨q, hq, hm⟩ := List.mem_flatMap.mp hm
    have helig := isEligible_below howners hapart hc hd Part.Reaches.refl q hq m hm
    simp [Analysis.change?, helig]
  rw [Part.methods_eq, List.filterMap_append, hbelow, List.append_nil]

theorem changes_run_direct (howners : u.OwnersMatch) (hapart : u.InnerTypesApart)
    (s : Settings) :
    (u.run s).report.changes =
      (u.classes.flatMap ClassDecl.methods).filterMap (u.analysis.change? s) := by
  rw [run_eq, methods_outline, List.filterMap_flatMap, List.filterMap_flatMap]
  apply List.flatMap_congr
  intro c hc
  have hmethods : c.methods = c.members.flatMap fun d => (Part.member d).method?.toList := by
    rw [ClassDecl.methods, List.filterMap_eq_flatMap_toList]
    apply List.flatMap_congr
    intro d _
    cases d <;> rfl
  rw [Part.methods_nested, hmethods, List.filterMap_flatMap, List.filterMap_flatMap]
  apply List.flatMap_congr
  intro d hd
  exact filterMap_change?_member howners hapart hc hd s

/-- **Inner methods stay.**  A method declared in a class body other than that of a top-level class
    is the same after a run, and no change names it; the changes are those of the methods that the
    top-level classes declare directly. -/
theorem run_keeps_inner_methods (s : Settings) (u : CompilationUnit) (howners : u.OwnersMatch)
    (hapart : u.InnerTypesApart) :
    (∀ path body place m, u.at? path = some body → 1 < path.length →
        body.children[place]? = some (.member (.method m)) →
        (u.run s).unit.methodAt? (path ++ [place]) = some m ∧
          ∀ change ∈ (u.run s).report.changes, m.signature ≠ some change.method) ∧
      (u.run s).report.changes =
        (u.classes.flatMap ClassDecl.methods).filterMap (u.analysis.change? s) := by
  refine ⟨?_, changes_run_direct howners hapart s⟩
  intro path body place m hbody hinner hplace
  obtain ⟨c, hc, d, hd, hheld⟩ := exists_member_of_at? hbody hinner
  have hm : .member (.method m) ∈ body.children := List.mem_of_getElem? hplace
  constructor
  · rw [run_eq, methodAt?_restyle, methodAt?_append hbody hplace, Option.map_some,
      restyle_inner howners hapart hc hd hheld hm]
  · intro change hchange hσ
    obtain ⟨m', -, helig, hσ'⟩ := mem_reported_iff.mp (List.mem_map_of_mem hchange)
    obtain ⟨τ, hτ, -, -, -, -, howner⟩ := Method.isEligible_iff.mp helig
    obtain rfl : change.method = τ := Option.some.inj (hσ'.symm.trans hτ)
    exact owner_notMem_topLevelTypes howners hapart hc hd hheld hm hσ howner

/-- `class Office { private Task open() { class Clerk { private int rank() {} } return new Task()
    { final int run() {} }; } class Drawer { final int size() {} } }` -/
def officeClass : ClassDecl :=
  ClassDraft.declare ⟨[], .class, "Office", none, none, [], [
    .method
      { keywords := [.private], result := "Task", name := "open"
        body := some [
          .localClass (ClassDraft.declare ⟨[], .class, "Clerk", some "Office$1Clerk", none, [], [
            .method { keywords := [.private], result := "int", name := "rank" }]⟩),
          .ret (some (.anonymous "Task" "Office$1"
            [{ keywords := [.final], result := "int", name := "run" }]))] },
    .nested ⟨[], .class, "Drawer", none, none, [], [
      .method { keywords := [.final], result := "int", name := "size" }]⟩]⟩

def office : CompilationUnit where
  classes := [officeClass]

theorem office_ownersMatch : office.OwnersMatch := by
  intro c hc
  obtain rfl := List.mem_singleton.mp hc
  refine Part.forall_holds_of_level 6 rfl ?_
  decide

theorem office_innerTypesApart : office.InnerTypesApart := by
  intro c hc
  obtain rfl := List.mem_singleton.mp hc
  refine List.forall_mem_cons.mpr ⟨?_, List.forall_mem_singleton.mpr ?_⟩
  · refine Part.forall_holds_of_level 5 rfl ?_
    decide
  · refine Part.forall_holds_of_level 2 rfl ?_
    decide

/-- The method of the top-level class is made static, the ones in the local class, in the anonymous
    class and in the nested class are not. -/
theorem office_keeps_inner_methods :
    office.OwnersMatch ∧ office.InnerTypesApart ∧
      ((office.run {}).unit.methodAt? [0, 0]).map Method.isStatic = some true ∧
      (office.run {}).unit.methodAt? [0, 0, 0, 0] = office.methodAt? [0, 0, 0, 0] ∧
      (office.run {}).unit.methodAt? [0, 0, 1, 0, 0, 0] = office.methodAt? [0, 0, 1, 0, 0, 0] ∧
      (office.run {}).unit.methodAt? [0, 1, 0] = office.methodAt? [0, 1, 0] := by
  obtain ⟨hkeep, -⟩ := run_keeps_inner_methods {} office office_ownersMatch office_innerTypesApart
  refine ⟨office_ownersMatch, office_innerTypesApart, by decide, ?_, ?_, ?_⟩
  · exact (hkeep [0, 0, 0] _ 0 _ rfl (by decide) rfl).1
  · exact (hkeep [0, 0, 1, 0, 0] _ 0 _ rfl (by decide) rfl).1
  · exact (hkeep [0, 1] _ 0 _ rfl (by decide) rfl).1

end CompilationUnit

end Receiverless
