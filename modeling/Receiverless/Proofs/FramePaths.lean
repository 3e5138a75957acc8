/-
  Receiverless/Proofs/FramePaths.lean
  ===================================
  **Frames and the way down to a use.**  The analysis knows where a use stands
  only by the stack of frames around it; a property of the tree speaks of the
  parts on the way down to the use.  This file carries one into the other.

    * A part on the way down that has a frame leaves it in the stack, and what
      is below it on the stack is the stack it was met with (`Descends.split`).
    * Frames that all pass a test are what an open way down leaves
      (`reaches_of_descends`, `exists_descends_of_reaches`).
    * Methods and fields stand directly in class bodies, so the flag that the
      outward walk keeps is set again before it could matter: the walk charges
      every method up to the first class it stops at (`charged_eq`).
-/
import Mathlib.Data.List.TakeWhile
import Receiverless.Proofs.PartOutlines

namespace Receiverless

/-! ### The outward walk over well nested frames -/

namespace Frame

def isClass : Frame → Bool
  | .memberClass _ | .localClass _ => true
  | _ => false

/-- Whether the outward walk ends at the frame. -/
def stops (stop : String → Bool) : Frame → Bool
  | .memberClass _ => true
  | .localClass type => stop type
  | _ => false

def signature? : Frame → Option MethodSig
  | .method signature => signature
  | _ => none

theorem eq_method_of_signature? {f : Frame} {σ : MethodSig} (h : f.signature? = some σ) :
    f = .method (some σ) := by
  cases f with
  | method signature => exact congrArg Frame.method h
  | _ => cases h

/-- Methods and fields stand directly in a class. -/
def WellNested : List Frame → Prop
  | [] => True
  | f :: outer => (f.isClass = false → outer.head?.any isClass = true) ∧ WellNested outer

theorem WellNested.of_append {inner outer : List Frame} (h : WellNested (inner ++ outer)) :
    WellNested outer := by
  induction inner with
  | nil => exact h
  | cons f inner ih => exact ih h.2

theorem charged_false {stop : String → Bool} {outer : List Frame}
    (h : outer.head?.any isClass = true) : charged stop false outer = charged stop true outer := by
  cases outer with
  | nil => cases h
  | cons f outer =>
    cases f with
    | method signature => cases h
    | field => cases h
    | memberClass type => rfl
    | localClass type => rfl

/-- A use is charged to all methods up to the first class that stops the walk. -/
theorem charged_eq (stop : String → Bool) {frames : List Frame} (h : WellNested frames) :
    charged stop true frames =
      (frames.takeWhile fun f => !f.stops stop).filterMap signature? := by
  induction frames with
  | nil => rfl
  | cons f outer ih =>
    obtain ⟨hhead, houter⟩ := h
    cases f with
    | method signature =>
      rw [charged, charged_false (hhead rfl), ih houter, List.takeWhile_cons_of_pos rfl]
      cases signature <;> rfl
    | field =>
      rw [charged, charged_false (hhead rfl), ih houter, List.takeWhile_cons_of_pos rfl,
        List.filterMap_cons_none rfl]
    | memberClass type => rfl
    | localClass type =>
      rw [charged]
      cases hstop : stop type with
      | true =>
        rw [if_pos rfl, List.takeWhile_cons_of_neg (by simp [stops, hstop]), List.filterMap_nil]
      | false =>
        rw [if_neg Bool.false_ne_true, ih houter,
          List.takeWhile_cons_of_pos (by simp [stops, hstop]), List.filterMap_cons_none rfl]

theorem mem_charged_iff {stop : String → Bool} {frames : List Frame} {σ : MethodSig}
    (h : WellNested frames) :
    σ ∈ charged stop true frames ↔
      ∃ inner outer, frames = inner ++ .method (some σ) :: outer ∧
        ∀ f ∈ inner, f.stops stop = false := by
  rw [charged_eq stop h]
  constructor
  · intro hσ
    obtain ⟨f, hf, hsig⟩ := List.mem_filterMap.mp hσ
    obtain rfl := eq_method_of_signature? hsig
    obtain ⟨inner, rest, hsplit⟩ := List.append_of_mem hf
    refine ⟨inner, rest ++ frames.dropWhile fun f => !f.stops stop, ?_, ?_⟩
    · have hall := List.takeWhile_append_dropWhile (p := fun f => !f.stops stop) (l := frames)
      rw [hsplit] at hall
      simpa using hall.symm
    · intro g hg
      have hmem : g ∈ frames.takeWhile fun f => !f.stops stop := by
        rw [hsplit]
        exact List.mem_append_left _ hg
      simpa using List.mem_takeWhile_imp hmem
  · rintro ⟨inner, outer, rfl, hinner⟩
    refine List.mem_filterMap.mpr ⟨.method (some σ), ?_, rfl⟩
    rw [List.takeWhile_append_of_pos (by simpa using hinner), List.takeWhile_cons_of_pos rfl]
    exact List.mem_append_right _ List.mem_cons_self

theorem mem_innermost_iff {frames : List Frame} {σ : MethodSig} :
    σ ∈ innermost frames ↔ ∃ outer, frames = .method (some σ) :: outer := by
  constructor
  · intro h
    unfold innermost at h
    split at h
    · rename_i τ outer
      obtain rfl := List.mem_singleton.mp h
      exact ⟨outer, rfl⟩
    · cases h
  · rintro ⟨outer, rfl⟩
    exact List.mem_singleton.mpr rfl

/-- Between a use and a method there is another frame only if there is a class. -/
theorem WellNested.eq_nil {inner outer : List Frame} {signature : Option MethodSig}
    (h : WellNested (inner ++ .method signature :: outer))
    (hinner : ∀ f ∈ inner, f.isClass = false) : inner = [] := by
  rcases List.eq_nil_or_concat inner with hnil | ⟨before, f, rfl⟩
  · exact hnil
  · rw [List.concat_eq_append, List.append_assoc] at h
    have hhead := h.of_append.1 (hinner f (by simp))
    cases hhead

end Frame

/-! ### The frames that a way down leaves -/

namespace Part

/-- Whether the frame of a part is a given kind of frame. -/
def framedBy (bad : Frame → Bool) (p : Part) : Bool := p.frame?.any bad

theorem isMemberClass_eq_framedBy : isMemberClass = framedBy (Frame.stops fun _ => false) := by
  funext p
  cases p with
  | expr e => rfl
  | stmt s => cases s <;> rfl
  | anonymous body => rfl
  | member d => cases d <;> rfl

theorem isClassBody_eq_framedBy : isClassBody = framedBy Frame.isClass := by
  funext p
  cases p with
  | expr e => rfl
  | stmt s => cases s <;> rfl
  | anonymous body => rfl
  | member d => cases d <;> rfl

variable {bad : Frame → Bool} {p q : Part} {a b : List Frame × Part}

theorem forall_mem_frame?_iff :
    (∀ f ∈ p.frame?.toList, bad f = false) ↔ p.framedBy bad = false := by
  unfold framedBy
  cases p.frame? <;> simp

theorem Descends.exists_append (h : Descends a b) : ∃ inner, b.1 = inner ++ a.1 := by
  induction h with
  | refl => exact ⟨[], rfl⟩
  | @tail x y _ hstep ih =>
    obtain ⟨inner, hinner⟩ := ih
    refine ⟨x.2.frame?.toList ++ inner, ?_⟩
    rw [hstep.1, enter, hinner, List.append_assoc]

theorem Descends.holds (h : Descends a b) : a.2.Holds b.2 := by
  induction h with
  | refl => exact Reaches.refl
  | tail _ hstep ih => exact Reaches.tail ih rfl hstep.2

/-- If no frame that a way down leaves is bad, then no part with a bad frame is passed on it. -/
theorem reaches_of_descends (h : Descends a b) {inner : List Frame} (hb : b.1 = inner ++ a.1)
    (hinner : ∀ f ∈ inner, bad f = false) : a.2.Reaches (framedBy bad) b.2 := by
  induction h generalizing inner with
  | refl => exact Reaches.refl
  | @tail x y hx hstep ih =>
    obtain ⟨inner', hinner'⟩ := Descends.exists_append hx
    have hsplit : inner = x.2.frame?.toList ++ inner' := by
      rw [hstep.1, enter, hinner', ← List.append_assoc] at hb
      exact (List.append_cancel_right hb).symm
    rw [hsplit, List.forall_mem_append] at hinner
    exact (ih hinner' hinner.2).tail (forall_mem_frame?_iff.mp hinner.1) hstep.2

theorem exists_descends_of_reaches (h : p.Reaches (framedBy bad) q) (frames : List Frame) :
    ∃ inner, (∀ f ∈ inner, bad f = false) ∧ Descends (frames, p) (inner ++ frames, q) := by
  induction h with
  | refl => exact ⟨[], by simp, Relation.ReflTransGen.refl⟩
  | @tail x y _ hstep ih =>
    obtain ⟨inner, hinner, hx⟩ := ih
    refine ⟨x.frame?.toList ++ inner, ?_, hx.tail ⟨List.append_assoc .., hstep.2⟩⟩
    exact List.forall_mem_append.mpr ⟨forall_mem_frame?_iff.mpr hstep.1, hinner⟩

theorem exists_descends_of_holds (h : p.Holds q) (frames : List Frame) :
    ∃ frames', Descends (frames, p) (frames', q) := by
  have hopen : p.Reaches (framedBy fun _ => false) q := by
    refine Reaches.mono h fun x _ => ?_
    exact forall_mem_frame?_iff.mp fun _ _ => rfl
  obtain ⟨inner, -, hdown⟩ := exists_descends_of_reaches hopen frames
  exact ⟨inner ++ frames, hdown⟩

/-- A frame in the stack was left by a part on the way down.  That part was met with the frames
    outside of it, and the rest of the way starts from one of its direct parts. -/
theorem Descends.split (h : Descends a b) (ha : a.1 = []) {inner outer : List Frame} {f : Frame}
    (hb : b.1 = inner ++ f :: outer) :
    ∃ x, x.frame? = some f ∧ Descends a (outer, x) ∧
      ∃ y ∈ x.children, Descends (f :: outer, y) b := by
  induction h generalizing inner with
  | refl =>
    rw [ha] at hb
    cases inner <;> cases hb
  | @tail x y hx hstep ih =>
    obtain ⟨xframes, x⟩ := x
    obtain ⟨yframes, y⟩ := y
    obtain ⟨rfl, hy⟩ : yframes = x.enter xframes ∧ y ∈ x.children := hstep
    cases hframe : x.frame? with
    | none =>
      -- a part without a frame leaves the stack as it was
      have hsame : x.enter xframes = xframes := by rw [enter, hframe]; rfl
      obtain ⟨z, hz, hdown, w, hw, hrest⟩ := ih (hsame ▸ hb)
      exact ⟨z, hz, hdown, w, hw, hrest.tail ⟨rfl, hy⟩⟩
    | some g =>
      have hnew : x.enter xframes = g :: xframes := by rw [enter, hframe]; rfl
      rw [hnew] at hb ⊢
      cases inner with
      | nil =>
        obtain ⟨rfl, rfl⟩ := List.cons.inj hb
        exact ⟨x, hframe, hx, y, hy, Relation.ReflTransGen.refl⟩
      | cons g' inner =>
        obtain ⟨-, hxframes⟩ := List.cons.inj hb
        obtain ⟨z, hz, hdown, w, hw, hrest⟩ := ih hxframes
        exact ⟨z, hz, hdown, w, hw, hrest.tail ⟨hnew.symm, hy⟩⟩

/-! ### Ways down from a class -/

theorem wellNested_enter {frames : List Frame} (h : Frame.WellNested (p.enter frames))
    (hq : q ∈ p.children) : Frame.WellNested (q.enter (p.enter frames)) := by
  have hmember : ∀ d, q = .member d → (p.enter frames).head?.any Frame.isClass = true := by
    rintro d rfl
    have hclass : p.framedBy Frame.isClass = true := by
      rw [← isClassBody_eq_framedBy]
      exact isClassBody_of_member_mem hq
    unfold framedBy at hclass
    unfold enter
    cases hframe : p.frame? with
    | none =>
      rw [hframe] at hclass
      cases hclass
    | some f =>
      rw [hframe] at hclass
      exact hclass
  cases q with
  | expr e => exact h
  | stmt s => cases s with
    | localClass decl => exact ⟨fun hne => (nomatch hne), h⟩
    | _ => exact h
  | anonymous body => exact ⟨fun hne => (nomatch hne), h⟩
  | member d => cases d with
    | field decl => exact ⟨fun _ => hmember _ rfl, h⟩
    | method decl => exact ⟨fun _ => hmember _ rfl, h⟩
    | nested decl => exact ⟨fun hne => (nomatch hne), h⟩
    | _ => exact h

theorem Descends.wellNested {c : ClassDecl} (h : Descends ([], .member (.nested c)) b) :
    Frame.WellNested b.1 := by
  have henter : Frame.WellNested (b.2.enter b.1) := by
    induction h with
    | refl => exact ⟨fun hne => (nomatch hne), trivial⟩
    | tail _ hstep ih =>
      rw [hstep.1]
      exact wellNested_enter ih hstep.2
  exact henter.of_append

theorem Descends.topLevel?_eq {c : ClassDecl} {frames : List Frame} {e : Expr}
    (h : Descends ([], .member (.nested c)) (frames, .expr e)) :
    Frame.topLevel? frames = some c.type := by
  rcases Relation.ReflTransGen.cases_head h with heq | ⟨x, hstep, hrest⟩
  · cases heq
  · obtain ⟨inner, hinner⟩ := Descends.exists_append hrest
    have hframes : frames = inner ++ [.memberClass c.type] := by
      rw [hstep.1] at hinner
      exact hinner
    rw [hframes, Frame.topLevel?, List.foldl_append]
    rfl

/-! ### Methods on the way down -/

theorem exists_method_of_frame? {signature : Option MethodSig}
    (h : p.frame? = some (.method signature)) :
    ∃ d, p = .member (.method d) ∧ d.signature = signature := by
  unfold frame? at h
  split at h
  · cases h
  · rename_i d
    exact ⟨d, rfl, by cases h; rfl⟩
  · cases h
  · cases h
  · cases h
  · cases h

/-- A method frame in the stack, with no bad frame inside of it, is a method from which the way down
    is open. -/
theorem exists_method_of_descends {inner outer : List Frame} {σ : MethodSig}
    (h : Descends ([], p) (inner ++ .method (some σ) :: outer, q))
    (hmethod : bad (.method (some σ)) = false) (hinner : ∀ f ∈ inner, bad f = false) :
    ∃ d, p.Holds (.member (.method d)) ∧ d.signature = some σ ∧
      (Part.member (.method d)).Reaches (framedBy bad) q := by
  obtain ⟨x, hx, hdown, y, hy, hrest⟩ := h.split rfl rfl
  have hopen : x.framedBy bad = false := by
    rw [framedBy, hx]
    exact hmethod
  obtain ⟨d, rfl, hσ⟩ := exists_method_of_frame? hx
  refine ⟨d, hdown.holds, hσ, ?_⟩
  exact (Reaches.refl.tail hopen hy).trans (reaches_of_descends hrest rfl hinner)

theorem exists_descends_of_method {d : Method} {σ : MethodSig} {e : Expr}
    (hholds : p.Holds (.member (.method d))) (hσ : d.signature = some σ)
    (hopen : (Part.member (.method d)).Reaches (framedBy bad) (.expr e)) :
    ∃ inner outer, (∀ f ∈ inner, bad f = false) ∧
      Descends ([], p) (inner ++ .method (some σ) :: outer, .expr e) := by
  obtain ⟨outer, hdown⟩ := exists_descends_of_holds hholds []
  rcases Relation.ReflTransGen.cases_head hopen with heq | ⟨y, hstep, hrest⟩
  · cases heq
  · obtain ⟨inner, hinner, hbelow⟩ := exists_descends_of_reaches hrest (.method (some σ) :: outer)
    refine ⟨inner, outer, hinner, hdown.trans (.head ⟨?_, hstep.2⟩ hbelow)⟩
    rw [← hσ]
    rfl

variable {c : ClassDecl} {e : Expr} {σ : MethodSig}

theorem exists_charged_iff (stop : String → Bool) :
    (∃ frames, Descends ([], .member (.nested c)) (frames, .expr e) ∧
        σ ∈ Frame.charged stop true frames) ↔
      ∃ d, (Part.member (.nested c)).Holds (.member (.method d)) ∧ d.signature = some σ ∧
        (Part.member (.method d)).Reaches (framedBy (Frame.stops stop)) (.expr e) := by
  constructor
  · rintro ⟨frames, hdown, hσ⟩
    obtain ⟨inner, outer, rfl, hinner⟩ := (Frame.mem_charged_iff hdown.wellNested).mp hσ
    exact exists_method_of_descends hdown rfl hinner
  · rintro ⟨d, hholds, hσ, hopen⟩
    obtain ⟨inner, outer, hinner, hdown⟩ := exists_descends_of_method hholds hσ hopen
    exact ⟨_, hdown, (Frame.mem_charged_iff hdown.wellNested).mpr ⟨inner, outer, rfl, hinner⟩⟩

theorem exists_enclosing_iff :
    (∃ frames, Descends ([], .member (.nested c)) (frames, .expr e) ∧
        σ ∈ Frame.enclosing frames) ↔
      ∃ d, (Part.member (.nested c)).Holds (.member (.method d)) ∧ d.signature = some σ ∧
        (Part.member (.method d)).Reaches isMemberClass (.expr e) := by
  rw [isMemberClass_eq_framedBy]
  exact exists_charged_iff _

theorem exists_innermost_iff :
    (∃ frames, Descends ([], .member (.nested c)) (frames, .expr e) ∧
        σ ∈ Frame.innermost frames) ↔
      ∃ d, (Part.member (.nested c)).Holds (.member (.method d)) ∧ d.signature = some σ ∧
        (Part.member (.method d)).Reaches isClassBody (.expr e) := by
  rw [isClassBody_eq_framedBy]
  constructor
  · rintro ⟨frames, hdown, hσ⟩
    obtain ⟨outer, rfl⟩ := Frame.mem_innermost_iff.mp hσ
    have hnone : ∀ f ∈ ([] : List Frame), f.isClass = false := by simp
    exact exists_method_of_descends hdown rfl hnone
  · rintro ⟨d, hholds, hσ, hopen⟩
    obtain ⟨inner, outer, hinner, hdown⟩ := exists_descends_of_method hholds hσ hopen
    -- a method or field in between would stand directly in a class, and there is none
    obtain rfl := hdown.wellNested.eq_nil hinner
    exact ⟨_, hdown, Frame.mem_innermost_iff.mpr ⟨outer, rfl⟩⟩

end Part

end Receiverless
