/-
  Receiverless/Proofs/LayoutForms.lean
  ====================================
  **What layouts are made of.**  A construct has one layout for each depth, and
  all of them are put together in a few ways: texts one after the other, a part
  of a line between brackets, lines between braces, a new line at the same depth
  or one deeper, whole lines below each other.  `Layout.Formed` lists these ways
  and `Part.formed` says that there are no others.  What is to be shown of the
  printed text of every construct then needs one case for each way, and not one
  for each of the forty forms of a construct.

  The texts that go into a layout come from the tree (`Part.texts`, and the texts
  of literals) and from the printer.  Which texts are allowed is a parameter `P`:
  it must be closed under what the printer does to texts (`Text.Stable`), and the
  result is then that all texts of the layout are allowed too.

  Three kinds of layouts are kept apart.  A piece is a part of a line, perhaps
  with further lines in it, and perhaps without any text; a solid piece has some
  text in front of its first line end, so a line that starts with it is not empty;
  and lines are complete lines with their margins and line ends.
-/
import Receiverless.Proofs.Parts
import Receiverless.Proofs.Layouts

namespace Receiverless

/-! ### Classes of texts -/

namespace Text

/-- The brackets, each with the one that closes it. -/
def brackets : List (String × String) := [("(", ")"), ("[", "]"), ("\x7b", "\x7d")]

/-- Neither a bracket nor a line end. -/
def isPlain (c : Char) : Bool := !(['\n', '\r', '(', ')', '[', ']', '\x7b', '\x7d'].contains c)

def allPlain (s : String) : Bool := s.toList.all isPlain

/-- Around every allowed text, the two texts make an allowed text. -/
def Encloses (P : String → Prop) (a b : String) : Prop := ∀ s, P s → P (a ++ s ++ b)

/-- Whether the first text ends in a bracket that the second one starts by closing, with plain
    characters otherwise. -/
def opens (a b : String) : Bool :=
  match a.toList.reverse, b.toList with
  | o :: front, c :: back =>
    (String.ofList [o], String.ofList [c]) ∈ brackets && front.all isPlain && back.all isPlain
  | _, _ => false

/-- Allowed texts stay allowed in what the printer does to them. -/
structure Stable (P : String → Prop) : Prop where
  append {s t : String} : P s → P t → P (s ++ t)
  plain {s : String} : allPlain s = true → P s
  encloses {a b : String} : (a, b) ∈ brackets → Encloses P a b
  dropBlanks {s : String} : P s → P (dropBlanks s)

namespace Stable

variable {P : String → Prop}

theorem fixed (hP : Stable P) {a b : String} (h : opens a b = true) : Encloses P a b := by
  unfold opens at h
  split at h
  · rename_i o front c back ha hb
    simp only [Bool.and_eq_true, decide_eq_true_eq, List.all_eq_true] at h
    obtain ⟨⟨hbracket, hfront⟩, hback⟩ := h
    have ha : a = String.ofList front.reverse ++ String.ofList [o] := by
      rw [← String.ofList_append, ← List.reverse_cons, ← ha, List.reverse_reverse,
        String.ofList_toList]
    have hb : b = String.ofList [c] ++ String.ofList back := by
      rw [← String.ofList_append, List.singleton_append, ← hb, String.ofList_toList]
    have hstart : P (String.ofList front.reverse) := hP.plain (by simpa [allPlain] using hfront)
    have hend : P (String.ofList back) := hP.plain (by simpa [allPlain] using hback)
    intro s hs
    have hinner := hP.append (hP.append hstart (hP.encloses hbracket s hs)) hend
    simp only [ha, hb, String.append_assoc] at hinner ⊢
    exact hinner
  · cases h

theorem after (hP : Stable P) {a b s : String} (hs : P s) (h : Encloses P a b) :
    Encloses P (s ++ a) b := by
  intro t ht
  have hinner := hP.append hs (h t ht)
  simp only [String.append_assoc] at hinner ⊢
  exact hinner

theorem join (hP : Stable P) {ss : List String} (h : ∀ s ∈ ss, P s) : P (String.join ss) := by
  induction ss with
  | nil => exact hP.plain (by decide)
  | cons s ss ih =>
    obtain ⟨hs, hss⟩ := List.forall_mem_cons.mp h
    rw [String.join_cons]
    exact hP.append hs (ih hss)

theorem commaList (hP : Stable P) {ss : List String} (h : ∀ s ∈ ss, P s) : P (commaList ss) := by
  induction ss with
  | nil => exact hP.plain (by decide)
  | cons s ss ih =>
    obtain ⟨hs, hss⟩ := List.forall_mem_cons.mp h
    cases ss with
    | nil => simpa [Receiverless.commaList] using hs
    | cons t ts =>
      have hrest := hP.append (hP.append hs (hP.plain (s := ", ") (by decide))) (ih hss)
      simpa [Receiverless.commaList, String.intercalate_cons_cons] using hrest

theorem either (hP : Stable P) {p : Prop} [Decidable p] {s t : String}
    (hs : allPlain s = true) (ht : allPlain t = true) : P (if p then s else t) := by
  split
  · exact hP.plain hs
  · exact hP.plain ht

theorem keyword (hP : Stable P) (k : Keyword) : P k.text := hP.plain (by cases k <;> decide)

theorem modifiers (hP : Stable P) {ms : Modifiers} (h : ∀ m ∈ ms, P m.lead) : P ms.render := by
  induction ms with
  | nil => exact hP.plain (by decide)
  | cons m ms ih =>
    obtain ⟨hm, hms⟩ := List.forall_mem_cons.mp h
    rw [Modifiers.render]
    exact hP.append (hP.append hm (hP.keyword m.keyword)) (ih hms)

end Stable

theorem notMem_of_any_eq_false {p : Char → Bool} {cs : List Char} {c : Char}
    (hnone : cs.any p = false) (h : p c = true) : c ∉ cs := by
  intro hc
  rw [List.any_eq_true.mpr ⟨c, hc, h⟩] at hnone
  cases hnone

/-- The characters that end a line. -/
def lineEnds : List Char := ['\n', '\r']

theorem stable_lineEnd_notMem {c : Char} (hc : c ∈ lineEnds) : Stable fun s => c ∉ s.toList where
  append hs ht hmem := by
    rw [String.toList_append, List.mem_append] at hmem
    exact hmem.elim hs ht
  plain h hmem := by
    have hnone : lineEnds.any isPlain = false := by decide
    exact notMem_of_any_eq_false hnone (List.all_eq_true.mp h c hmem) hc
  encloses hbracket s hs hmem := by
    have hnone : ∀ p ∈ brackets, (p.1.toList ++ p.2.toList).any lineEnds.contains = false := by
      decide
    have hends := notMem_of_any_eq_false (hnone _ hbracket) (List.contains_iff_mem.mpr hc)
    simp only [String.toList_append, List.mem_append, not_or] at hmem hends
    exact hmem.elim (fun h => h.elim hends.1 hs) hends.2
  dropBlanks hs hmem := by
    rw [dropBlanks, String.toList_ofList] at hmem
    exact hs ((List.dropWhile_suffix _).subset hmem)

end Text

/-! ### The ways to put layouts together -/

namespace Layout

inductive Shape where
  | piece
  | solid
  | lines

/-- The layouts of a construct by depth, as they are put together from allowed texts. -/
inductive Formed (P : String → Prop) : Shape → (Nat → Layout) → Prop where
  | empty : Formed P .piece fun _ => []
  | text {s : String} (hs : P s) : Formed P .piece fun _ => text s
  | word {s : String} (hs : P s) (hne : s ≠ "") : Formed P .solid fun _ => text s
  | weaken {f : Nat → Layout} (hf : Formed P .solid f) : Formed P .piece f
  | append {f g : Nat → Layout} (hf : Formed P .piece f) (hg : Formed P .piece g) :
      Formed P .piece fun d => f d ++ g d
  | before {f g : Nat → Layout} (hf : Formed P .solid f) (hg : Formed P .piece g) :
      Formed P .solid fun d => f d ++ g d
  | behind {f g : Nat → Layout} (hf : Formed P .piece f) (hg : Formed P .solid g) :
      Formed P .solid fun d => f d ++ g d
  | group {a b : String} {f : Nat → Layout} (h : Text.Encloses P a b) (hne : a ≠ "")
      (hf : Formed P .piece f) : Formed P .solid fun d => Layout.text a ++ f d ++ Layout.text b
  | braced {f : Nat → Layout} (hf : Formed P .lines f) :
      Formed P .solid fun d => Layout.braced d (f (d + 1))
  | newLine {f g : Nat → Layout} (hf : Formed P .solid f) (hg : Formed P .solid g) :
      Formed P .solid fun d => f d ++ .newline :: .margin d :: g d
  | innerLine {f g : Nat → Layout} (hf : Formed P .solid f) (hg : Formed P .solid g) :
      Formed P .solid fun d => f d ++ .newline :: .margin (d + 1) :: g (d + 1)
  | none : Formed P .lines fun _ => []
  | blank : Formed P .lines fun _ => [.newline]
  | line {f : Nat → Layout} (hf : Formed P .solid f) :
      Formed P .lines fun d => Layout.line d (f d)
  | stack {f g : Nat → Layout} (hf : Formed P .lines f) (hg : Formed P .lines g) :
      Formed P .lines fun d => f d ++ g d
  | deeper {f : Nat → Layout} (hf : Formed P .lines f) : Formed P .lines fun d => f (d + 1)

namespace Formed

variable {P : String → Prop} {f g : Nat → Layout}

theorem body (hf : Formed P .solid f) (hg : Formed P .solid g) (isBlock : Bool) :
    Formed P .solid fun d => f d ++ Layout.body isBlock g d := by
  cases isBlock with
  | true => exact hf.before hg.weaken
  | false => exact hf.innerLine hg

theorem afterBody (hf : Formed P .solid f) (hg : Formed P .solid g) (hspace : P " ")
    (isBlock : Bool) : Formed P .solid fun d => f d ++ Layout.afterBody isBlock d ++ g d := by
  cases isBlock with
  | true => exact (hf.before (.text hspace)).before hg.weaken
  | false =>
    simp only [Layout.afterBody, Bool.false_eq_true, if_false, List.append_assoc, List.cons_append,
      List.nil_append]
    exact hf.newLine hg

/-- A group behind other text. -/
theorem groupBehind {a b : String} (h : Text.Encloses P a b) (hne : a ≠ "")
    (hf : Formed P .piece f) (hg : Formed P .piece g) :
    Formed P .solid fun d => f d ++ Layout.text a ++ g d ++ Layout.text b := by
  simp only [List.append_assoc]
  have hgroup := hf.behind (group h hne hg)
  simp only [List.append_assoc] at hgroup
  exact hgroup

section Lists

variable {α : Type} {h : Nat → α → Layout} {xs : List α}

theorem pieces (hxs : ∀ x ∈ xs, Formed P .piece fun d => h d x) :
    Formed P .piece fun d => xs.flatMap (h d) := by
  induction xs with
  | nil => exact .empty
  | cons x xs ih =>
    obtain ⟨hx, hxs⟩ := List.forall_mem_cons.mp hxs
    exact hx.append (ih hxs)

theorem manyLines (hxs : ∀ x ∈ xs, Formed P .lines fun d => h d x) :
    Formed P .lines fun d => xs.flatMap (h d) := by
  induction xs with
  | nil => exact .none
  | cons x xs ih =>
    obtain ⟨hx, hxs⟩ := List.forall_mem_cons.mp hxs
    exact hx.stack (ih hxs)

theorem separated {separator : String} (hsep : P separator)
    (hxs : ∀ x ∈ xs, Formed P .piece fun d => h d x) :
    Formed P .piece fun d => Layout.separated separator (xs.map (h d)) := by
  induction xs with
  | nil => exact .empty
  | cons x xs ih =>
    obtain ⟨hx, hxs⟩ := List.forall_mem_cons.mp hxs
    cases xs with
    | nil => exact hx
    | cons y ys => exact (hx.append (.text hsep)).append (ih hxs)

theorem spacedMembers (hxs : ∀ x ∈ xs, Formed P .lines fun d => h d x) :
    Formed P .lines fun d => spacedMembers (xs.map (h d)) := by
  induction xs with
  | nil => exact .none
  | cons x xs ih =>
    obtain ⟨hx, hxs⟩ := List.forall_mem_cons.mp hxs
    cases xs with
    | nil => exact hx
    | cons y ys => exact hx.stack (blank.stack (ih hxs))

end Lists

end Formed

end Layout

open Layout (text separated braced body afterBody)

namespace Text.Stable

variable {P : String → Prop}

theorem piece (hP : Stable P) {s : String} (h : allPlain s = true) :
    Layout.Formed P .piece fun _ => text s :=
  .text (hP.plain h)

theorem solid (hP : Stable P) {s : String} (h : s ≠ "" ∧ allPlain s = true) :
    Layout.Formed P .solid fun _ => text s :=
  .word (hP.plain h.2) h.1

theorem between (hP : Stable P) (a b : String) (h : opens a b = true) {f : Nat → Layout}
    (hf : Layout.Formed P .piece f) : Layout.Formed P .solid fun d => text a ++ f d ++ text b := by
  refine .group (hP.fixed h) ?_ hf
  rintro rfl
  cases h

end Text.Stable

/-! ### The texts of a construct

These are the texts that the tree holds and the printer shows, those of the parts
of a construct not included.  Literals are kept apart, as what is shown of them is
not what they hold. -/

def Modifiers.leads (ms : Modifiers) : List String := ms.map Modifier.lead

def Param.texts (p : Param) : List String := p.modifiers.leads ++ [p.type, p.name]

def LambdaParam.texts (p : LambdaParam) : List String := p.name :: p.type.toList

def Resource.texts (r : Resource) : List String :=
  r.declares.toList.flatMap fun (type, n) => [type, n]

def ClassDecl.texts (c : ClassDecl) : List String :=
  c.modifiers.leads ++ c.name :: c.superclass.toList ++ c.interfaces

def Expr.texts : Expr → List String
  | .name n | .access _ n _ => [n.text]
  | .self qualifier _ => qualifier.toList
  | .call _ n _ _ _ | .methodRef _ n _ => [n]
  | .create type _ _ _ | .newArray type _ _ _ | .cast type _ => [type]
  | .instanceOf _ type binding => type :: binding.toList
  | .lambda params _ _ => params.flatMap LambdaParam.texts
  | _ => []

def Stmt.texts : Stmt → List String
  | .locals modifiers type declarators =>
    modifiers.leads ++ type :: declarators.map Declarator.name
  | .forEach param _ _ => param.texts
  | .tryCatch resources _ catches _ =>
    resources.flatMap Resource.texts ++ catches.flatMap fun c => c.param.texts
  | .labelled label _ => [label]
  | .localClass decl => decl.texts
  | .leave label | .next label => label.toList
  | _ => []

def Member.texts : Member → List String
  | .field decl => decl.modifiers.leads ++ decl.type :: decl.declarators.map Declarator.name
  | .method decl =>
    decl.modifiers.leads ++ decl.typeParams ++ [decl.result, decl.name] ++
      decl.params.flatMap Param.texts ++ decl.throws
  | .constructor decl =>
    decl.modifiers.leads ++ decl.name :: decl.params.flatMap Param.texts ++ decl.throws
  | .initializer _ _ _ => []
  | .nested decl => decl.texts

namespace Part

def texts : Part → List String
  | .expr e => e.texts
  | .stmt s => s.texts
  | .anonymous _ => []
  | .member d => d.texts

def literal? : Part → Option Literal
  | .expr (.literal v) => some v
  | _ => none

/-- What the part shows by itself is allowed. -/
def Admits (P : String → Prop) (p : Part) : Prop :=
  (∀ t ∈ p.texts, P t) ∧ ∀ v ∈ p.literal?, P v.text

/-- The layouts of the part are put together from allowed texts. -/
def Formed (P : String → Prop) : Part → Prop
  | .expr e => Layout.Formed P .piece fun d => e.layout d
  | .stmt s =>
    (Layout.Formed P .solid fun d => s.inline d) ∧ (Layout.Formed P .lines fun d => s.lines d) ∧
      Layout.Formed P .piece fun d => s.forInit d
  | .anonymous b => Layout.Formed P .lines fun d => spacedMembers (memberLayouts d b.members)
  | .member m => Layout.Formed P .lines fun d => m.layout d

end Part

/-! ### Parts without inner structure -/

section Leaves

variable {P : String → Prop}

theorem formed_modifiers (hP : Text.Stable P) {ms : Modifiers} (h : ∀ t ∈ ms.leads, P t) :
    Layout.Formed P .piece fun _ => ms.layout := by
  have hrender : P ms.render := hP.modifiers (by simpa [Modifiers.leads] using h)
  unfold Modifiers.layout
  cases ms.isEmpty with
  | true => exact .empty
  | false => exact .text (hP.append hrender (hP.plain (by decide)))

theorem formed_modifiersTrimmed (hP : Text.Stable P) {ms : Modifiers} (h : ∀ t ∈ ms.leads, P t) :
    Layout.Formed P .piece fun _ => ms.layoutTrimmed := by
  have hrender : P ms.render := hP.modifiers (by simpa [Modifiers.leads] using h)
  unfold Modifiers.layoutTrimmed
  cases ms.isEmpty with
  | true => exact .empty
  | false => exact .text (hP.append (hP.dropBlanks hrender) (hP.plain (by decide)))

theorem formed_param (hP : Text.Stable P) {p : Param} (h : ∀ t ∈ p.texts, P t) :
    Layout.Formed P .piece fun _ => p.layout := by
  simp only [Param.texts, List.forall_mem_append, List.forall_mem_cons] at h
  obtain ⟨hleads, htype, hname, -⟩ := h
  have hdots : P (if p.varargs then "..." else "") := hP.either (by decide) (by decide)
  have hspace : P " " := hP.plain (by decide)
  have htext := hP.append (hP.append (hP.append htype hdots) hspace) hname
  exact (formed_modifiers hP hleads).append (.text htext)

theorem formed_paramList (hP : Text.Stable P) {ps : List Param}
    (h : ∀ t ∈ ps.flatMap Param.texts, P t) :
    Layout.Formed P .solid fun _ => paramList ps := by
  have hparams : ∀ p ∈ ps, Layout.Formed P .piece fun _ => p.layout := by
    intro p hp
    exact formed_param hP fun t ht => h t (List.mem_flatMap.mpr ⟨p, hp, ht⟩)
  exact hP.between "(" ")" (by decide)
    (.separated (h := fun _ => Param.layout) (hP.plain (by decide)) hparams)

theorem formed_throws (hP : Text.Stable P) {ts : List String} (h : ∀ t ∈ ts, P t) :
    Layout.Formed P .piece fun _ => throwsClause ts := by
  unfold throwsClause
  cases ts.isEmpty with
  | true => exact .empty
  | false => exact .text (hP.append (hP.plain (by decide)) (hP.commaList h))

theorem formed_lambdaParams (hP : Text.Stable P) {ps : List LambdaParam}
    (h : ∀ t ∈ ps.flatMap LambdaParam.texts, P t) :
    Layout.Formed P .solid fun _ => text (lambdaParams ps ++ " -> ") := by
  have hparams : ∀ t ∈ ps.map LambdaParam.text, P t := by
    intro t ht
    obtain ⟨⟨n, type⟩, hp, rfl⟩ := List.mem_map.mp ht
    have htexts : ∀ t ∈ LambdaParam.texts ⟨n, type⟩, P t :=
      fun t ht => h t (List.mem_flatMap.mpr ⟨_, hp, ht⟩)
    cases type with
    | none => exact htexts n List.mem_cons_self
    | some type =>
      have htype := htexts type (by simp [LambdaParam.texts])
      have hname := htexts n (by simp [LambdaParam.texts])
      exact hP.append (hP.append htype (hP.plain (by decide))) hname
  have hlist : P (lambdaParams ps) := by
    unfold lambdaParams
    split
    · exact h _ (by simp [LambdaParam.texts])
    · exact hP.fixed (by decide) _ (hP.commaList hparams)
  refine .word (hP.append hlist (hP.plain (by decide))) ?_
  simp

theorem formed_jump (hP : Text.Stable P) {keyword : String}
    (hkeyword : Text.allPlain keyword = true) {label : Option String}
    (h : ∀ t ∈ label.toList, P t) : Layout.Formed P .solid fun _ => jump keyword label := by
  have hword := hP.plain hkeyword
  cases label with
  | none => exact .word (hP.append hword (hP.plain (by decide))) (by simp)
  | some l =>
    have hl := h l List.mem_cons_self
    have hfront := hP.append (hP.append hword (hP.plain (s := " ") (by decide))) hl
    exact .word (hP.append hfront (hP.plain (by decide))) (by simp)

theorem ClassDecl.formed_head (hP : Text.Stable P) {c : ClassDecl} (h : ∀ t ∈ c.texts, P t) :
    Layout.Formed P .solid fun _ => text c.head := by
  simp only [ClassDecl.texts, List.forall_mem_append, List.forall_mem_cons] at h
  obtain ⟨⟨-, hname, hsuper⟩, hinterfaces⟩ := h
  have hkind : P c.kind.text := by
    cases c.kind <;> exact hP.plain (by decide)
  have hspace : P " " := hP.plain (by decide)
  refine .word ?_ (by simp [ClassDecl.head])
  unfold ClassDecl.head
  refine hP.append (hP.append (hP.append (hP.append (hP.append hkind hspace) hname) ?_) ?_) hspace
  · split
    · exact hP.plain (by decide)
    · rename_i t hsome
      exact hP.append (hP.plain (by decide)) (hsuper t (by simp [hsome]))
  · split
    · exact hP.plain (by decide)
    · refine hP.append ?_ (hP.commaList hinterfaces)
      cases c.kind <;> exact hP.plain (by decide)

/-- The head of a method behind its modifiers. -/
theorem Method.formed_head (hP : Text.Stable P) {m : Method}
    (h : ∀ t ∈ (Member.method m).texts, P t) : Layout.Formed P .solid fun _ => m.head := by
  simp only [Member.texts, List.forall_mem_append, List.forall_mem_cons] at h
  obtain ⟨⟨⟨⟨-, htypeParams⟩, hresult, hname, -⟩, hparams⟩, hthrows⟩ := h
  have hbounds :
      P (if m.typeParams.isEmpty then "" else "<" ++ commaList m.typeParams ++ "> ") := by
    split
    · exact hP.plain (by decide)
    · exact hP.append (hP.append (hP.plain (by decide)) (hP.commaList htypeParams))
        (hP.plain (by decide))
  have hspace : P " " := hP.plain (by decide)
  have htext := hP.append (hP.append (hP.append hbounds hresult) hspace) hname
  exact ((Layout.Formed.text htext).behind (formed_paramList hP hparams)).before
    (formed_throws hP hthrows)

end Leaves

/-! ### Lists of parts -/

section Lists

variable {P : String → Prop}

theorem formed_exprs (hP : Text.Stable P) {es : List Expr}
    (h : ∀ q ∈ es.map Part.expr, q.Formed P) :
    Layout.Formed P .piece fun d => separated ", " (exprLayouts d es) := by
  simp only [exprLayouts_eq_map]
  exact .separated (hP.plain (by decide)) fun e he => h _ (List.mem_map_of_mem he)

theorem formed_dimensions (hP : Text.Stable P) {es : List Expr}
    (h : ∀ q ∈ es.map Part.expr, q.Formed P) :
    Layout.Formed P .piece fun d => dimensionsLayout d es := by
  simp only [dimensionsLayout_eq_flatMap]
  refine .pieces fun e he => ?_
  exact (hP.between "[" "]" (by decide) (h _ (List.mem_map_of_mem he))).weaken

theorem formed_stmts {ss : List Stmt} (h : ∀ q ∈ ss.map Part.stmt, q.Formed P) :
    Layout.Formed P .lines fun d => stmtLines d ss := by
  simp only [stmtLines_eq_flatMap]
  exact .manyLines fun t ht => (h _ (List.mem_map_of_mem ht)).2.1

theorem formed_block {ss : List Stmt} (h : ∀ q ∈ ss.map Part.stmt, q.Formed P) :
    Layout.Formed P .solid fun d => braced d (stmtLines (d + 1) ss) :=
  (formed_stmts h).braced

theorem formed_forInit (hP : Text.Stable P) {ss : List Stmt}
    (h : ∀ q ∈ ss.map Part.stmt, q.Formed P) :
    Layout.Formed P .piece fun d => separated ", " (forInitLayouts d ss) := by
  simp only [forInitLayouts_eq_map]
  exact .separated (hP.plain (by decide)) fun t ht => (h _ (List.mem_map_of_mem ht)).2.2

theorem formed_members {ds : List Member} (h : ∀ q ∈ ds.map Part.member, q.Formed P) :
    Layout.Formed P .lines fun d => spacedMembers (memberLayouts d ds) := by
  simp only [memberLayouts_eq_map]
  exact .spacedMembers fun d hd => h _ (List.mem_map_of_mem hd)

theorem formed_declarators (hP : Text.Stable P) {ds : List Declarator}
    (hnames : ∀ t ∈ ds.map Declarator.name, P t) (h : ∀ q ∈ initParts ds, q.Formed P) :
    Layout.Formed P .piece fun d => separated ", " (declaratorLayouts d ds) := by
  simp only [declaratorLayouts_eq_map]
  refine .separated (hP.plain (by decide)) fun x hx => ?_
  have hname := hnames _ (List.mem_map_of_mem hx)
  have hinit : ∀ q ∈ x.init.toList.map Part.expr, q.Formed P :=
    fun q hq => h q (List.mem_flatMap.mpr ⟨x, hx, hq⟩)
  obtain ⟨n, _ | init, signature, span⟩ := x
  · exact .text hname
  · have he := hinit (.expr init) List.mem_cons_self
    exact (Layout.Formed.text (hP.append hname (hP.plain (by decide)))).append he

theorem formed_resources (hP : Text.Stable P) {rs : List Resource}
    (htexts : ∀ t ∈ rs.flatMap Resource.texts, P t)
    (h : ∀ q ∈ rs.map (fun r => Part.expr r.value), q.Formed P) :
    Layout.Formed P .piece fun d => separated "; " (resourceLayouts d rs) := by
  simp only [resourceLayouts_eq_map]
  refine .separated (hP.plain (by decide)) fun r hr => ?_
  have hvalue : Layout.Formed P .piece fun d => r.value.layout d := h _ (List.mem_map_of_mem hr)
  have hown : ∀ t ∈ r.texts, P t := fun t ht => htexts t (List.mem_flatMap.mpr ⟨r, hr, ht⟩)
  obtain ⟨_ | ⟨type, n⟩, value⟩ := r
  · exact hvalue
  · have htype := hown type (by simp [Resource.texts])
    have hname := hown n (by simp [Resource.texts])
    have hfront := hP.append (hP.append htype (hP.plain (s := " ") (by decide))) hname
    exact (Layout.Formed.text (hP.append hfront (hP.plain (by decide)))).append hvalue

theorem formed_catches (hP : Text.Stable P) {cs : List CatchClause}
    (htexts : ∀ t ∈ cs.flatMap (fun c => c.param.texts), P t)
    (h : ∀ q ∈ cs.flatMap (fun c => c.body.map Part.stmt), q.Formed P) :
    Layout.Formed P .piece fun d => catchesLayout d cs := by
  simp only [catchesLayout_eq_flatMap]
  refine .pieces fun c hc => ?_
  have hparam := formed_param hP fun t ht => htexts t (List.mem_flatMap.mpr ⟨c, hc, ht⟩)
  have hbody : ∀ q ∈ c.body.map Part.stmt, q.Formed P :=
    fun q hq => h q (List.mem_flatMap.mpr ⟨c, hc, hq⟩)
  have hhead := hP.between " catch (" ") " (by decide) hparam
  exact (hhead.before (formed_block hbody).weaken).weaken

theorem formed_caseHead (hP : Text.Stable P) {es : List Expr}
    (h : ∀ q ∈ es.map Part.expr, q.Formed P) :
    Layout.Formed P .solid fun d => caseHead (exprLayouts d es) := by
  cases es with
  | nil => exact hP.solid (by decide)
  | cons e es => exact (hP.solid (by decide)).before (formed_exprs hP h)

theorem formed_case (hP : Text.Stable P) {c : Case} (h : ∀ q ∈ c.parts, q.Formed P) :
    Layout.Formed P .lines fun d => c.lines d := by
  obtain ⟨labels, arrow, statements⟩ := c
  obtain ⟨hlabels, hbody⟩ := List.forall_mem_append.mp h
  have hhead := formed_caseHead hP hlabels
  cases arrow with
  | false =>
    simp only [Case.lines, caseLines, List.append_nil]
    exact (hhead.before (hP.piece (by decide))).line.stack (formed_stmts hbody).deeper
  | true =>
    cases statements with
    | nil =>
      simp only [Case.lines, caseLines, List.append_nil]
      exact (hhead.before (hP.piece (by decide))).line
    | cons t rest =>
      have ht := hbody (.stmt t) List.mem_cons_self
      simp only [Case.lines, caseLines, List.append_nil]
      exact ((hhead.before (hP.piece (by decide))).before ht.1.weaken).line

theorem formed_cases (hP : Text.Stable P) {cs : List Case}
    (h : ∀ q ∈ cs.flatMap Case.parts, q.Formed P) :
    Layout.Formed P .lines fun d => caseLines d cs := by
  simp only [caseLines_eq_flatMap]
  refine .manyLines fun c hc => ?_
  exact formed_case hP fun q hq => h q (List.mem_flatMap.mpr ⟨c, hc, hq⟩)

theorem formed_switch (hP : Text.Stable P) {selector : Expr} {cs : List Case}
    (h : ∀ q ∈ Part.expr selector :: cs.flatMap Case.parts, q.Formed P) :
    Layout.Formed P .solid fun d =>
      text "switch (" ++ selector.layout d ++ text ") " ++ braced d (caseLines (d + 1) cs) := by
  obtain ⟨hselector, hcases⟩ := List.forall_mem_cons.mp h
  have hhead := hP.between "switch (" ") " (by decide) hselector
  exact hhead.before (formed_cases hP hcases).braced.weaken

end Lists

/-! ### Forms of constructs -/

section Forms

variable {P : String → Prop}

theorem Expr.formed (hP : Text.Stable P) (e : Expr) (hown : (Part.expr e).Admits P)
    (h : ∀ q ∈ e.parts, q.Formed P) : (Part.expr e).Formed P := by
  obtain ⟨htexts, hliteral⟩ := hown
  have hspace : P " " := hP.plain (by decide)
  cases e with
  | literal v => exact .text (hliteral v rfl)
  | name n => exact .text (htexts n.text List.mem_cons_self)
  | self qualifier span =>
    cases qualifier with
    | none => exact hP.piece (by decide)
    | some q => exact .text (hP.append (htexts q List.mem_cons_self) (hP.plain (by decide)))
  | super => exact hP.piece (by decide)
  | access target n span =>
    have htarget := h (.expr target) List.mem_cons_self
    have hname := htexts n.text List.mem_cons_self
    exact htarget.append (.text (hP.append (hP.plain (by decide)) hname))
  | call receiver n args t span =>
    obtain ⟨hreceiver, hargs⟩ := List.forall_mem_append.mp h
    have hname := htexts n List.mem_cons_self
    have hlist := formed_exprs hP hargs
    cases receiver with
    | none =>
      exact (Layout.Formed.group (hP.after hname (hP.fixed (by decide))) (by simp) hlist).weaken
    | some r =>
      have hr := hreceiver (.expr r) List.mem_cons_self
      have hdot := hP.append (hP.plain (s := ".") (by decide)) hname
      exact (Layout.Formed.groupBehind (hP.after hdot (hP.fixed (by decide))) (by simp) hr
        hlist).weaken
  | methodRef target n span =>
    have htarget := h (.expr target) List.mem_cons_self
    have hname := htexts n List.mem_cons_self
    exact htarget.append (.text (hP.append (hP.plain (by decide)) hname))
  | unary op operand =>
    have hoperand := h (.expr operand) List.mem_cons_self
    have hbefore : P op.before := by cases op <;> exact hP.plain (by decide)
    have hafter : P op.after := by cases op <;> exact hP.plain (by decide)
    exact ((Layout.Formed.text hbefore).append hoperand).append (.text hafter)
  | binary op left right =>
    simp only [Expr.parts, List.forall_mem_cons] at h
    obtain ⟨hleft, hright, -⟩ := h
    have hop : P op.text := by cases op <;> exact hP.plain (by decide)
    exact (hleft.append (.text (hP.append (hP.append hspace hop) hspace))).append hright
  | assign op target value =>
    simp only [Expr.parts, List.forall_mem_cons] at h
    obtain ⟨htarget, hvalue, -⟩ := h
    have hop : P op.text := by cases op <;> exact hP.plain (by decide)
    exact (htarget.append (.text (hP.append (hP.append hspace hop) hspace))).append hvalue
  | conditional condition yes no =>
    simp only [Expr.parts, List.forall_mem_cons] at h
    obtain ⟨hcondition, hyes, hno, -⟩ := h
    have htest := hcondition.append (hP.piece (s := " ? ") (by decide))
    exact ((htest.append hyes).append (hP.piece (s := " : ") (by decide))).append hno
  | create type args members span =>
    obtain ⟨hargs, hmembers⟩ := List.forall_mem_append.mp h
    have hnew := hP.append (hP.plain (s := "new ") (by decide)) (htexts type List.mem_cons_self)
    have hlist := formed_exprs hP hargs
    cases members with
    | none =>
      exact (Layout.Formed.group (hP.after hnew (hP.fixed (by decide))) (by simp) hlist).weaken
    | some b =>
      have hb := hmembers (.anonymous b) List.mem_cons_self
      cases b
      have hopen := hP.after hnew (hP.fixed (a := "(") (b := ") ") (by decide))
      have hhead := Layout.Formed.group hopen (by simp) hlist
      exact (hhead.before hb.braced.weaken).weaken
  | index array position =>
    simp only [Expr.parts, List.forall_mem_cons] at h
    obtain ⟨harray, hposition, -⟩ := h
    exact (Layout.Formed.groupBehind (hP.fixed (by decide)) (by decide) harray hposition).weaken
  | newArray element dimensions extra elements =>
    obtain ⟨hdimensions, helements⟩ := List.forall_mem_append.mp h
    have hnew := hP.append (hP.plain (s := "new ") (by decide)) (htexts element List.mem_cons_self)
    have hempty : P (String.join (List.replicate extra "[]")) := by
      refine hP.join fun s hs => ?_
      rw [List.eq_of_mem_replicate hs]
      exact hP.fixed (a := "[") (b := "]") (by decide) "" (hP.plain (by decide))
    have hsizes := (Layout.Formed.text hnew).append (formed_dimensions hP hdimensions)
    cases elements with
    | none => exact hsizes.append (.text hempty)
    | some es =>
      exact (Layout.Formed.groupBehind (hP.after hempty (hP.fixed (by decide))) (by simp) hsizes
        (formed_exprs hP helements)).weaken
  | arrayInit elements => exact (hP.between "\x7b" "\x7d" (by decide) (formed_exprs hP h)).weaken
  | cast type operand =>
    have hoperand := h (.expr operand) List.mem_cons_self
    have htype := hP.fixed (a := "(") (b := ") ") (by decide) type (htexts type List.mem_cons_self)
    exact (Layout.Formed.text htype).append hoperand
  | instanceOf operand type binding =>
    have hoperand := h (.expr operand) List.mem_cons_self
    have htest := hP.append (hP.plain (s := " instanceof ") (by decide))
      (htexts type List.mem_cons_self)
    cases binding with
    | none => exact hoperand.append (.text htest)
    | some b =>
      have hb := htexts b (by simp [Part.texts, Expr.texts])
      exact hoperand.append (.text (hP.append (hP.append htest hspace) hb))
  | switch selector cases => exact (formed_switch hP h).weaken
  | lambda params value span =>
    have hparams := formed_lambdaParams hP htexts
    cases value with
    | expr e => exact (hparams.before (h (.expr e) List.mem_cons_self)).weaken
    | block statements => exact (hparams.before (formed_block h).weaken).weaken
  | paren inner =>
    exact (hP.between "(" ")" (by decide) (h (.expr inner) List.mem_cons_self)).weaken

theorem ClassDecl.formed_layout (hP : Text.Stable P) {c : ClassDecl} (htexts : ∀ t ∈ c.texts, P t)
    (h : ∀ q ∈ c.members.map Part.member, q.Formed P) :
    Layout.Formed P .lines fun d => c.layout d := by
  have hhead := ClassDecl.formed_head hP htexts
  have hbody := (formed_members h).braced
  have hmodifiers : Layout.Formed P .piece fun _ => c.modifiers.layout :=
    formed_modifiers hP fun t ht => htexts t (by simp [ClassDecl.texts, ht])
  cases c
  exact ((hmodifiers.behind hhead).before hbody.weaken).line

theorem ClassDecl.formed_inline (hP : Text.Stable P) {c : ClassDecl} (htexts : ∀ t ∈ c.texts, P t)
    (h : ∀ q ∈ c.members.map Part.member, q.Formed P) :
    Layout.Formed P .solid fun d => c.inline d := by
  have hhead := ClassDecl.formed_head hP htexts
  have hbody := (formed_members h).braced
  have hmodifiers : Layout.Formed P .piece fun _ => c.modifiers.layoutTrimmed :=
    formed_modifiersTrimmed hP fun t ht => htexts t (by simp [ClassDecl.texts, ht])
  cases c
  exact (hmodifiers.behind hhead).before hbody.weaken

/-- Variables of one type behind their modifiers, without the semicolon. -/
theorem formed_variables (hP : Text.Stable P) {modifiers : Modifiers} {type : String}
    {ds : List Declarator}
    (htexts : ∀ t ∈ modifiers.leads ++ type :: ds.map Declarator.name, P t)
    (h : ∀ q ∈ initParts ds, q.Formed P) :
    Layout.Formed P .piece fun d => modifiers.layout ++ text (type ++ " ") ++
      separated ", " (declaratorLayouts d ds) := by
  simp only [List.forall_mem_append, List.forall_mem_cons] at htexts
  obtain ⟨hleads, htype, hnames⟩ := htexts
  have hfront := (formed_modifiers hP hleads).append
    (.text (hP.append htype (hP.plain (s := " ") (by decide))))
  exact hfront.append (formed_declarators hP hnames h)

theorem Stmt.formed_inline (hP : Text.Stable P) (s : Stmt) (htexts : ∀ t ∈ s.texts, P t)
    (h : ∀ q ∈ s.parts, q.Formed P) : Layout.Formed P .solid fun d => s.inline d := by
  have hspace : P " " := hP.plain (by decide)
  have hend : Layout.Formed P .solid fun _ => text ";" := hP.solid (by decide)
  cases s with
  | block statements => exact formed_block h
  | locals modifiers type declarators => exact (formed_variables hP htexts h).behind hend
  | eval value =>
    have hvalue := h (.expr value) List.mem_cons_self
    exact hvalue.behind hend
  | ret value =>
    cases value with
    | none => exact hP.solid (by decide)
    | some e =>
      have he := h (.expr e) List.mem_cons_self
      exact ((hP.piece (by decide)).append he).behind hend
  | raise value =>
    have hvalue := h (.expr value) List.mem_cons_self
    exact ((hP.piece (by decide)).append hvalue).behind hend
  | «yield» value =>
    have hvalue := h (.expr value) List.mem_cons_self
    exact ((hP.piece (by decide)).append hvalue).behind hend
  | ifElse condition yes no =>
    obtain ⟨hcondition, hbranches⟩ := List.forall_mem_cons.mp h
    obtain ⟨hyes, hno⟩ := List.forall_mem_cons.mp hbranches
    have hfirst := (hP.between "if (" ") " (by decide) hcondition).body hyes.1 yes.isBlock
    cases no with
    | none => exact hfirst
    | some t =>
      have ht := hno (.stmt t) List.mem_cons_self
      have helse := hfirst.afterBody (hP.solid (s := "else ") (by decide)) hspace yes.isBlock
      exact helse.body ht.1 (t.isBlock || t.isConditional)
  | whileLoop condition inner =>
    simp only [Stmt.parts, List.forall_mem_cons] at h
    obtain ⟨hcondition, hinner, -⟩ := h
    exact (hP.between "while (" ") " (by decide) hcondition).body hinner.1 inner.isBlock
  | doLoop inner condition =>
    simp only [Stmt.parts, List.forall_mem_cons] at h
    obtain ⟨hinner, hcondition, -⟩ := h
    have hfirst := (hP.solid (s := "do ") (by decide)).body hinner.1 inner.isBlock
    have htest := hP.between "while (" ");" (by decide) hcondition
    have hall := hfirst.afterBody htest hspace inner.isBlock
    change Layout.Formed P .solid fun d =>
      text "do " ++ body inner.isBlock (fun d => inner.inline d) d ++ afterBody inner.isBlock d ++
        text "while (" ++ condition.layout d ++ text ");"
    simp only [List.append_assoc] at hall ⊢
    exact hall
  | forLoop init condition update inner =>
    simp only [Stmt.parts, List.forall_mem_append] at h
    obtain ⟨⟨⟨hinit, hcondition⟩, hupdate⟩, hbody⟩ := h
    have hinner := hbody (.stmt inner) List.mem_cons_self
    have hsecond : Layout.Formed P .piece fun _ => text (if update.isEmpty then ";" else "; ") :=
      .text (hP.either (by decide) (by decide))
    have hloop : ∀ {test : Nat → Layout}, Layout.Formed P .piece test →
        Layout.Formed P .solid fun d =>
          text "for (" ++ separated ", " (forInitLayouts d init) ++ text ";" ++ test d ++
            text (if update.isEmpty then ";" else "; ") ++ separated ", " (exprLayouts d update) ++
            text ") " ++ body inner.isBlock (fun d => inner.inline d) d := by
      intro test htest
      have hfront := ((formed_forInit hP hinit).append hend.weaken).append htest
      have hhead := (hfront.append hsecond).append (formed_exprs hP hupdate)
      have hall := (hP.between "for (" ") " (by decide) hhead).body hinner.1 inner.isBlock
      simp only [List.append_assoc] at hall ⊢
      exact hall
    -- The layout is not a plain concatenation before it is known whether there is a condition.
    cases condition with
    | none => exact hloop .empty
    | some e =>
      have he := hcondition (.expr e) List.mem_cons_self
      exact hloop ((hP.piece (by decide)).append he)
  | forEach param iterable inner =>
    simp only [Stmt.parts, List.forall_mem_cons] at h
    obtain ⟨hiterable, hinner, -⟩ := h
    have hhead := ((formed_param hP htexts).append (hP.piece (s := " : ") (by decide))).append
      hiterable
    have hall := (hP.between "for (" ") " (by decide) hhead).body hinner.1 inner.isBlock
    change Layout.Formed P .solid fun d =>
      text "for (" ++ param.layout ++ text " : " ++ iterable.layout d ++ text ") " ++
        body inner.isBlock (fun d => inner.inline d) d
    simp only [List.append_assoc] at hall ⊢
    exact hall
  | tryCatch resources statements catches final =>
    simp only [Stmt.parts, List.forall_mem_append] at h
    simp only [Stmt.texts, List.forall_mem_append] at htexts
    obtain ⟨⟨⟨hresources, hstatements⟩, hcatches⟩, hfinal⟩ := h
    have hhead : Layout.Formed P .piece fun d =>
        (if resources.isEmpty then []
          else text "(" ++ separated "; " (resourceLayouts d resources) ++ text ") ") := by
      cases resources.isEmpty
      · exact (hP.between "(" ") " (by decide) (formed_resources hP htexts.1 hresources)).weaken
      · exact .empty
    have hblock := ((hP.solid (s := "try ") (by decide)).before hhead).before
      (formed_block hstatements).weaken
    have hhandlers := hblock.before (formed_catches hP htexts.2 hcatches)
    cases final with
    | none => exact hhandlers.before .empty
    | some rest =>
      have hrest := (formed_block hfinal).weaken
      exact hhandlers.before ((hP.piece (by decide)).append hrest)
  | locked lock statements =>
    obtain ⟨hlock, hstatements⟩ := List.forall_mem_cons.mp h
    have hhead := hP.between "synchronized (" ") " (by decide) hlock
    exact hhead.before (formed_block hstatements).weaken
  | «switch» selector cases => exact formed_switch hP h
  | labelled label inner =>
    have hinner := h (.stmt inner) List.mem_cons_self
    have hlabel := hP.append (htexts label List.mem_cons_self) (hP.plain (s := ": ") (by decide))
    exact (Layout.Formed.text hlabel).behind hinner.1
  | check condition message =>
    obtain ⟨hcondition, hmessage⟩ := List.forall_mem_cons.mp h
    have htest := (hP.piece (s := "assert ") (by decide)).append hcondition
    cases message with
    | none => exact htest.behind hend
    | some e =>
      have he := hmessage (.expr e) List.mem_cons_self
      exact ((htest.append (hP.piece (by decide))).append he).behind hend
  | localClass decl => exact ClassDecl.formed_inline hP htexts h
  | leave label => exact formed_jump hP (by decide) htexts
  | next label => exact formed_jump hP (by decide) htexts
  | empty => exact hend

theorem Stmt.formed (hP : Text.Stable P) (s : Stmt) (hown : (Part.stmt s).Admits P)
    (h : ∀ q ∈ s.parts, q.Formed P) : (Part.stmt s).Formed P := by
  have htexts : ∀ t ∈ s.texts, P t := hown.1
  have hinline := s.formed_inline hP htexts h
  refine ⟨hinline, ?_, ?_⟩
  · cases s with
    | localClass decl => exact ClassDecl.formed_layout hP htexts h
    | _ => exact hinline.line
  · cases s with
    | locals modifiers type declarators => exact formed_variables hP htexts h
    | eval value => exact h (.expr value) List.mem_cons_self
    | _ => exact hinline.weaken

theorem Member.formed (hP : Text.Stable P) (m : Member) (hown : (Part.member m).Admits P)
    (h : ∀ q ∈ m.parts, q.Formed P) : (Part.member m).Formed P := by
  have htexts : ∀ t ∈ m.texts, P t := hown.1
  cases m with
  | field decl =>
    have hvariables := formed_variables hP htexts h
    cases decl
    exact (hvariables.behind (hP.solid (by decide))).line
  | method decl =>
    have hhead := Method.formed_head hP htexts
    have hmodifiers : Layout.Formed P .piece fun _ => decl.modifiers.layout :=
      formed_modifiers hP fun t ht => htexts t (by simp [Member.texts, ht])
    have hfront := hmodifiers.behind hhead
    obtain ⟨modifiers, typeParams, result, n, params, throws, _ | statements, signature, span⟩ :=
      decl
    · exact (hfront.before (hP.piece (by decide))).line
    · exact ((hfront.before (hP.piece (by decide))).before (formed_block h).weaken).line
  | «constructor» decl =>
    simp only [Member.texts, List.forall_mem_append, List.forall_mem_cons] at htexts
    obtain ⟨⟨hleads, hname, hparams⟩, hthrows⟩ := htexts
    have hfront := ((formed_modifiers hP hleads).append (.text hname)).behind
      (formed_paramList hP hparams)
    have hspace := hP.piece (s := " ") (by decide)
    have hhead := (hfront.before (formed_throws hP hthrows)).before hspace
    cases decl
    exact (hhead.before (formed_block h).weaken).line
  | «initializer» isStatic statements span =>
    have hword : P (if isStatic then "static " else "") := hP.either (by decide) (by decide)
    exact ((Layout.Formed.text hword).behind (formed_block h)).line
  | nested decl => exact ClassDecl.formed_layout hP htexts h

end Forms

/-- All layouts of a part are put together from allowed texts if all texts in it are allowed. -/
theorem Part.formed {P : String → Prop} (hP : Text.Stable P) (p : Part)
    (h : ∀ q, p.Holds q → q.Admits P) : p.Formed P := by
  induction p using Part.induction with
  | step p ih =>
    obtain ⟨hown, hchildren⟩ := Part.forall_holds_iff.mp h
    have hparts : ∀ q ∈ p.children, q.Formed P := fun q hq => ih q hq (hchildren q hq)
    cases p with
    | expr e => exact e.formed hP hown hparts
    | stmt s => exact s.formed hP hown hparts
    | anonymous b => exact formed_members hparts
    | member m => exact m.formed hP hown hparts

end Receiverless
