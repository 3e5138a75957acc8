/-
  Receiverless/Proofs/Brackets.lean
  =================================
  **Printed source is balanced.**  If the texts of a unit are balanced in round,
  square and curly brackets, then so is the unit as it is printed
  (`CompilationUnit.balanced_render`).

  A text is read with a stack of the closing brackets that are awaited, and it is
  balanced if it can be read and leaves nothing open.  What is read does not look
  below the part of the stack that it added itself (`foldlM_readBracket_append`),
  so a balanced text leaves any stack as it was.  Balanced texts are therefore
  closed under what the printer does to texts, and the forms of layouts give the
  rest.
-/
import Mathlib.Data.List.TakeWhile
import Receiverless.Draft.Shorthand
import Receiverless.Proofs.LiteralTexts

namespace Receiverless

/-! ### Balanced texts -/

namespace Text

/-- The bracket that closes a given one. -/
def closing? : Char → Option Char
  | '(' => some ')'
  | '[' => some ']'
  | '\x7b' => some '\x7d'
  | _ => none

def isClosing (c : Char) : Bool := [')', ']', '\x7d'].contains c

/-- Read one character while closing brackets are awaited, the innermost first.  A closing bracket
    that is not awaited next cannot be read. -/
def readBracket (awaited : List Char) (c : Char) : Option (List Char) :=
  match closing? c with
  | some b => some (b :: awaited)
  | none =>
    if isClosing c then
      match awaited with
      | [] => none
      | b :: outer => if c = b then some outer else none
    else some awaited

/-- Every closing bracket closes the innermost open one, and in the end none is open. -/
def Balanced (s : String) : Prop := s.toList.foldlM readBracket [] = some []

instance : DecidablePred Balanced := fun s =>
  inferInstanceAs (Decidable (s.toList.foldlM readBracket [] = some []))

example : Balanced "f(a[i], \x7b[]\x7d)" ∧ ¬ Balanced "(]" ∧ ¬ Balanced ")(" ∧
    ¬ Balanced "\x7b" := by
  decide

def bracketChars : List Char := ['(', ')', '[', ']', '\x7b', '\x7d']

variable {c : Char}

theorem readBracket_of_notMem (h : c ∉ bracketChars) (awaited : List Char) :
    readBracket awaited c = some awaited := by
  have hopening : closing? c = none := by
    unfold closing?
    split
    · exact absurd h (by decide)
    · exact absurd h (by decide)
    · exact absurd h (by decide)
    · rfl
  have hclosing : isClosing c = false := by
    by_contra hc
    simp only [isClosing, Bool.not_eq_false, List.contains_iff_mem] at hc
    have hsub : [')', ']', '\x7d'] ⊆ bracketChars := by decide
    exact h (hsub hc)
  simp [readBracket, hopening, hclosing]

theorem foldlM_of_notMem {cs : List Char} (h : ∀ c ∈ cs, c ∉ bracketChars) (awaited : List Char) :
    cs.foldlM readBracket awaited = some awaited := by
  induction cs with
  | nil => rfl
  | cons c cs ih =>
    obtain ⟨hc, hcs⟩ := List.forall_mem_cons.mp h
    rw [List.foldlM_cons, readBracket_of_notMem hc]
    exact ih hcs

/-- A character that can be read can be read with more brackets open further out. -/
theorem readBracket_append {awaited left : List Char}
    (h : readBracket awaited c = some left) (outer : List Char) :
    readBracket (awaited ++ outer) c = some (left ++ outer) := by
  unfold readBracket at h ⊢
  cases hc : closing? c with
  | some b =>
    simp only [hc, Option.some.injEq] at h ⊢
    rw [← h, List.cons_append]
  | none =>
    simp only [hc] at h ⊢
    by_cases hclosing : isClosing c = true
    · rw [if_pos hclosing] at h ⊢
      rcases awaited with _ | ⟨b, rest⟩
      · cases h
      · by_cases hb : c = b
        · simp only [if_pos hb, Option.some.injEq] at h
          simp [hb, h]
        · simp [hb] at h
    · rw [if_neg hclosing] at h ⊢
      rw [Option.some.inj h]

theorem foldlM_readBracket_append {cs awaited left : List Char}
    (h : cs.foldlM readBracket awaited = some left) (outer : List Char) :
    cs.foldlM readBracket (awaited ++ outer) = some (left ++ outer) := by
  induction cs generalizing awaited with
  | nil =>
    rw [List.foldlM_nil] at h ⊢
    rw [Option.some.inj h]
    rfl
  | cons c cs ih =>
    rw [List.foldlM_cons] at h ⊢
    obtain ⟨next, hnext, hrest⟩ := Option.bind_eq_some_iff.mp h
    rw [readBracket_append hnext]
    exact ih hrest

namespace Balanced

variable {s t : String}

theorem foldlM_eq (h : Balanced s) (awaited : List Char) :
    s.toList.foldlM readBracket awaited = some awaited :=
  foldlM_readBracket_append h awaited

theorem append (hs : Balanced s) (ht : Balanced t) : Balanced (s ++ t) := by
  rw [Balanced, String.toList_append, List.foldlM_append, hs.foldlM_eq]
  exact ht

/-- A balanced text between a bracket and the one that closes it. -/
theorem enclosed {o b : Char} (hob : closing? o = some b) (hb : closing? b = none)
    (hclosing : isClosing b = true) (hs : Balanced s) :
    Balanced (String.ofList [o] ++ s ++ String.ofList [b]) := by
  have hopen : readBracket [] o = some [b] := by simp [readBracket, hob]
  have hclose : readBracket [b] b = some [] := by simp [readBracket, hb, hclosing]
  simp only [Balanced, String.toList_append, String.toList_ofList, List.foldlM_append,
    List.foldlM_cons, List.foldlM_nil, hopen]
  change (s.toList.foldlM readBracket [b]).bind _ = _
  rw [hs.foldlM_eq, Option.bind_some, hclose]
  rfl

theorem dropBlanks (hs : Balanced s) : Balanced (dropBlanks s) := by
  have hfront : ∀ c ∈ s.toList.takeWhile isBlank, c ∉ bracketChars := fun c hc =>
    notMem_of_any_eq_false (p := isBlank) rfl (List.mem_takeWhile_imp hc)
  rw [Balanced, ← List.takeWhile_append_dropWhile (p := isBlank) (l := s.toList),
    List.foldlM_append, foldlM_of_notMem hfront] at hs
  rw [Balanced, Text.dropBlanks, String.toList_ofList]
  exact hs

end Balanced

theorem stable_balanced : Stable Balanced where
  append := Balanced.append
  plain h := foldlM_of_notMem
    (fun c hc => notMem_of_any_eq_false (p := isPlain) rfl (List.all_eq_true.mp h c hc)) []
  encloses hbracket s hs := by
    simp only [brackets, List.mem_cons, Prod.mk.injEq, List.not_mem_nil, or_false] at hbracket
    rcases hbracket with ⟨rfl, rfl⟩ | ⟨rfl, rfl⟩ | ⟨rfl, rfl⟩
    · exact Balanced.enclosed (o := '(') rfl rfl rfl hs
    · exact Balanced.enclosed (o := '[') rfl rfl rfl hs
    · exact Balanced.enclosed (o := '\x7b') rfl rfl rfl hs
  dropBlanks := Balanced.dropBlanks

end Text

open Text

/-! ### Literals

An escape has no bracket in it, and characters without an escape stand for themselves, so a quoted
text is read like what it holds. -/

namespace Literal

theorem foldlM_escapeInString (c : Char) (awaited : List Char) :
    (escapeInString c).foldlM readBracket awaited = readBracket awaited c := by
  unfold escapeInString
  split
  · rfl
  · rfl
  · rfl
  · rfl
  · simp

theorem foldlM_escapeInChar (c : Char) (awaited : List Char) :
    (escapeInChar c).foldlM readBracket awaited = readBracket awaited c := by
  unfold escapeInChar
  split
  · rfl
  · rfl
  · rfl
  · simp

theorem foldlM_flatMap_escapeInString (cs awaited : List Char) :
    (cs.flatMap escapeInString).foldlM readBracket awaited = cs.foldlM readBracket awaited := by
  induction cs generalizing awaited with
  | nil => rfl
  | cons c cs ih =>
    rw [List.flatMap_cons, List.foldlM_append, foldlM_escapeInString, List.foldlM_cons]
    congr 1
    funext next
    exact ih next

theorem balanced_quoted {s : String} (h : Balanced s) : Balanced (quoted s) := by
  have hquote : ∀ awaited, readBracket awaited '"' = some awaited :=
    readBracket_of_notMem (by decide)
  rw [Text.Balanced, quoted, String.toList_ofList, List.foldlM_append, List.foldlM_cons, hquote]
  change ((s.toList.flatMap escapeInString).foldlM readBracket []).bind _ = _
  rw [foldlM_flatMap_escapeInString, h.foldlM_eq]
  rfl

theorem balanced_quotedChar {c : Char} (h : Balanced (String.ofList [c])) :
    Balanced (quotedChar c) := by
  have hread : readBracket [] c = some [] := by simpa [Text.Balanced] using h
  rw [Text.Balanced, quotedChar, String.toList_ofList, List.foldlM_append, List.foldlM_cons]
  change ((escapeInChar c).foldlM readBracket []).bind _ = _
  rw [foldlM_escapeInChar, hread]
  rfl

theorem balanced_text {v : Literal} (h : ∀ t ∈ v.contents, Balanced t) : Balanced v.text := by
  refine stable_balanced.literal ?_ ?_
  · rintro s rfl
    exact balanced_quoted (h s List.mem_cons_self)
  · rintro c rfl
    exact balanced_quotedChar (h _ List.mem_cons_self)

end Literal

/-! ### Layouts -/

namespace Layout

theorem stable_marginText {P : String → Prop} (hP : Stable P) (depth : Nat) :
    P (marginText depth) := by
  induction depth with
  | zero => exact hP.plain (by decide)
  | succ depth ih => exact hP.append (hP.plain (by decide)) ih

/-- The whole text is allowed if the texts in it are, and line ends too. -/
theorem Formed.render {P : String → Prop} (hP : Stable P) (hnewline : P "\n") {shape : Shape}
    {f : Nat → Layout} (h : Formed P shape f) (d : Nat) : P (f d).render := by
  have hempty : P "" := hP.plain (by decide)
  have hmargin := stable_marginText hP
  induction h generalizing d with
  | empty => exact hempty
  | text hs => rwa [render_text]
  | word hs hne => rwa [render_text]
  | weaken hf ih => exact ih d
  | append hf hg ihf ihg =>
    rw [render_append]
    exact hP.append (ihf d) (ihg d)
  | before hf hg ihf ihg =>
    rw [render_append]
    exact hP.append (ihf d) (ihg d)
  | behind hf hg ihf ihg =>
    rw [render_append]
    exact hP.append (ihf d) (ihg d)
  | group hab hne hf ih =>
    rw [render_append, render_append, render_text, render_text]
    exact hab _ (ih d)
  | @braced f hf ih =>
    have hlines := hP.append hnewline (hP.append (ih (d + 1)) (hmargin d))
    have hall := hP.encloses (a := "\x7b") (b := "\x7d") (by decide) _ hlines
    simpa only [Layout.braced, render_cons, render_append, List.cons_append, Chunk.render,
      String.append_assoc, render_nil, String.append_empty] using hall
  | newLine hf hg ihf ihg =>
    rw [render_append, render_cons, render_cons]
    exact hP.append (ihf d) (hP.append hnewline (hP.append (hmargin d) (ihg d)))
  | innerLine hf hg ihf ihg =>
    rw [render_append, render_cons, render_cons]
    exact hP.append (ihf d) (hP.append hnewline (hP.append (hmargin (d + 1)) (ihg (d + 1))))
  | none => exact hempty
  | blank =>
    rw [render_cons]
    exact hP.append hnewline hempty
  | line hf ih =>
    simp only [Layout.line, List.cons_append, render_cons, render_append]
    exact hP.append (hmargin d) (hP.append (ih d) (hP.append hnewline hempty))
  | stack hf hg ihf ihg =>
    rw [render_append]
    exact hP.append (ihf d) (ihg d)
  | deeper hf ih => exact ih (d + 1)

end Layout

/-- The texts of a part and the texts that its literals hold. -/
def Part.ownTexts (p : Part) : List String := p.texts ++ p.literal?.toList.flatMap Literal.contents

theorem Part.admits_balanced {p : Part} (h : ∀ t ∈ p.ownTexts, Balanced t) : p.Admits Balanced := by
  obtain ⟨htexts, hcontents⟩ := List.forall_mem_append.mp h
  refine ⟨htexts, ?_⟩
  intro v hv
  refine Literal.balanced_text fun t ht => hcontents t ?_
  exact List.mem_flatMap.mpr ⟨v, Option.mem_toList.mpr hv, ht⟩

theorem ClassDecl.formed_layout_balanced {c : ClassDecl}
    (h : ∀ q, (Part.member (.nested c)).Holds q → ∀ t ∈ q.ownTexts, Balanced t) :
    Layout.Formed Balanced .lines fun d => c.layout d :=
  Part.formed stable_balanced (.member (.nested c)) fun q hq => Part.admits_balanced (h q hq)

namespace CompilationUnit

/-- The texts in front of the classes. -/
def headTexts (u : CompilationUnit) : List String := u.package.toList ++ u.imports

/-- A printed unit is balanced in its brackets if each text in it is: package, imports, and the
    names, types, labels, qualifiers, modifier leads and literals of its classes. -/
theorem balanced_render (u : CompilationUnit) (hhead : ∀ t ∈ u.headTexts, Balanced t)
    (hclasses : ∀ c ∈ u.classes, ∀ q, (Part.member (.nested c)).Holds q →
      ∀ t ∈ q.ownTexts, Balanced t) :
    Balanced u.layout.render := by
  obtain ⟨hpackage, himports⟩ := List.forall_mem_append.mp hhead
  have hnewline : Balanced "\n" := by decide
  have hline : ∀ w t, Balanced w → Balanced t → Balanced (w ++ t ++ ";") :=
    fun w t hw ht => (hw.append ht).append (by decide)
  have hbody : Balanced (spacedMembers (u.classes.map (ClassDecl.layout 0))).render :=
    (Layout.Formed.spacedMembers fun c hc =>
      ClassDecl.formed_layout_balanced (hclasses c hc)).render stable_balanced hnewline 0
  rw [layout, Layout.render_append, Layout.render_append]
  refine ((?_ : Balanced _).append ?_).append hbody
  · split
    · decide
    · rename_i p hp
      have htext := hline "package " p (by decide) (hpackage p (by simp [hp]))
      simp only [Layout.render_cons, Chunk.render]
      exact htext.append (hnewline.append (hnewline.append (by decide)))
  · split
    · decide
    · rw [Layout.render_append]
      refine Balanced.append ?_ (by decide)
      rw [Layout.render_flatMap]
      refine stable_balanced.join fun t ht => ?_
      obtain ⟨i, hi, rfl⟩ := List.mem_map.mp ht
      have htext := hline "import " i (by decide) (himports i hi)
      simp only [Layout.render_cons, Chunk.render]
      exact htext.append (hnewline.append (by decide))

/-- A class with brackets in an annotation, in an array type and in a string, and with a local class
    as the branch of a condition. -/
def router : CompilationUnit :=
  let key := Expr.index (.plainName "routes") (.literal (.string "(a[\x7bid\x7d])"))
  let task := Expr.lambda [⟨"x", some "int[]"⟩, ⟨"y", none⟩] (.block [.ret (some key)]) {}
  { package := some "net.routing"
    imports := ["java.util.Map"]
    classes := [⟨[⟨"@Path(\"\x7bid\x7d\") ", .public⟩], .class, "Router", "Router", none, [], [
      .field ⟨[], "int[]", [⟨"sizes", some (.arrayInit [.literal (.int 1)]), none, {}⟩], {}⟩,
      .method ⟨[], ["T"], "T[]", "find", [.plain "T" "t"], ["Lost"], some [
        .tryCatch [⟨some ("Pool", "p"), .newArray "Pool" [key] 1 none⟩] [.eval task]
          [⟨.plain "Lost" "e", [.next none]⟩] none,
        .ifElse (.paren key) (.localClass
          ⟨[⟨" ", .final⟩], .record, "Hop", "Router.Hop", none, [], [], {}⟩) (some .empty),
        .switch key [.single [.literal (.char '"')] (.raise key), .colon [] [.ret none]]],
        none, {}⟩], {}⟩] }

theorem router_balanced_render :
    (∀ t ∈ router.headTexts, Balanced t) ∧
    (∀ c ∈ router.classes, ∀ q, (Part.member (.nested c)).Holds q → ∀ t ∈ q.ownTexts, Balanced t) ∧
    Balanced router.layout.render := by
  have hhead : ∀ t ∈ router.headTexts, Balanced t := by decide
  have hclasses : ∀ c ∈ router.classes, ∀ q, (Part.member (.nested c)).Holds q →
      ∀ t ∈ q.ownTexts, Balanced t := by
    intro c hc
    rw [List.mem_singleton.mp hc]
    refine Part.forall_holds_of_level 8 rfl ?_
    decide
  exact ⟨hhead, hclasses, router.balanced_render hhead hclasses⟩

end CompilationUnit

end Receiverless
