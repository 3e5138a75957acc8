/-
  Receiverless/Proofs/LineEnds.lean
  =================================
  **Expressions on one line.**  An expression without a switch, a block lambda and
  a class body in it is printed without margins and line ends of the printer's own.
  So a line end can only come from a text of the tree or from a literal
  (`Expr.mem_chars_layout_iff`).  Literals spell out a line feed and nothing else
  that ends a line: a carriage return goes through as it is, and it breaks the line
  (`Expr.greeting_breaks_line`).
-/
import Receiverless.Proofs.Margins

namespace Receiverless

open Text
open Layout (text separated)

/-! ### Line ends in texts -/

variable {c : Char}

namespace Text

/-- A text without a line end. -/
def OneLine (s : String) : Prop := ∀ x ∈ lineEnds, x ∉ s.toList

-- A search through the text; the bounded quantifier over characters would be decided by trying all.
instance : DecidablePred OneLine := fun s =>
  decidable_of_iff (s.toList.any lineEnds.contains = false) <| by
    simp only [List.any_eq_false, List.contains_iff_mem, OneLine]
    exact ⟨fun h x hx hmem => h x hmem hx, fun h x hmem hx => h x hx hmem⟩

theorem eq_iff_of_lineEnd (hc : c ∈ lineEnds) {x : Char} (hx : x ∉ lineEnds) : c = x ↔ False :=
  iff_false_intro fun h => hx (h ▸ hc)

theorem mem_commaList_iff (hc : c ∈ lineEnds) (ts : List String) :
    c ∈ (commaList ts).toList ↔ ∃ t ∈ ts, c ∈ t.toList := by
  induction ts with
  | nil => simp [commaList]
  | cons t ts ih =>
    rcases ts with _ | ⟨u, us⟩
    · simp [commaList]
    · rw [commaList, String.intercalate_cons_cons, ← commaList, String.toList_append,
        String.toList_append, List.mem_append, List.mem_append, ih]
      simp (disch := decide) [eq_iff_of_lineEnd hc]

end Text

theorem mem_chars_separated_iff (hc : c ∈ lineEnds) (ls : List Layout) :
    c ∈ (separated ", " ls).chars ↔ ∃ l ∈ ls, c ∈ l.chars := by
  induction ls with
  | nil => simp [separated]
  | cons l ls ih =>
    rcases ls with _ | ⟨m, ms⟩
    · simp [separated]
    · simp (disch := decide) [separated, eq_iff_of_lineEnd hc, ih]

theorem mem_chars_exprs_iff (hc : c ∈ lineEnds) (d : Nat) (es : List Expr) :
    c ∈ (separated ", " (exprLayouts d es)).chars ↔ ∃ e ∈ es, c ∈ (e.layout d).chars := by
  rw [exprLayouts_eq_map, mem_chars_separated_iff hc]
  simp

theorem mem_chars_dimensions_iff (hc : c ∈ lineEnds) (d : Nat) (es : List Expr) :
    c ∈ (dimensionsLayout d es).chars ↔ ∃ e ∈ es, c ∈ (e.layout d).chars := by
  induction es with
  | nil => simp [dimensionsLayout]
  | cons e es ih => simp (disch := decide) [dimensionsLayout, eq_iff_of_lineEnd hc, ih]

theorem LambdaParam.mem_text_iff (hc : c ∈ lineEnds) (p : LambdaParam) :
    c ∈ p.text.toList ↔ ∃ t ∈ p.texts, c ∈ t.toList := by
  obtain ⟨n, _ | type⟩ := p
  · simp [LambdaParam.text, LambdaParam.texts]
  · simp (disch := decide) [LambdaParam.text, LambdaParam.texts, eq_iff_of_lineEnd hc, or_comm]

theorem mem_lambdaParams_iff (hc : c ∈ lineEnds) (ps : List LambdaParam) :
    c ∈ (lambdaParams ps).toList ↔ ∃ t ∈ ps.flatMap LambdaParam.texts, c ∈ t.toList := by
  have hlist : c ∈ (commaList (ps.map LambdaParam.text)).toList ↔
      ∃ t ∈ ps.flatMap LambdaParam.texts, c ∈ t.toList := by
    simp only [mem_commaList_iff hc, List.mem_map, List.mem_flatMap]
    constructor
    · rintro ⟨_, ⟨p, hp, rfl⟩, hmem⟩
      obtain ⟨t, ht, htc⟩ := (p.mem_text_iff hc).mp hmem
      exact ⟨t, ⟨p, hp, ht⟩, htc⟩
    · rintro ⟨t, ⟨p, hp, ht⟩, htc⟩
      exact ⟨p.text, ⟨p, hp, rfl⟩, (p.mem_text_iff hc).mpr ⟨t, ht, htc⟩⟩
  unfold lambdaParams
  split
  · simp [LambdaParam.texts]
  · rw [String.toList_append, String.toList_append, List.mem_append, List.mem_append, hlist]
    simp (disch := decide) [eq_iff_of_lineEnd hc]

/-! ### Line ends in expressions -/

namespace Part

/-- A text or literal of the part itself has the character in it. -/
def Shows (c : Char) (p : Part) : Prop :=
  (∃ t ∈ p.texts, c ∈ t.toList) ∨ ∃ v ∈ p.literal?, c ∈ v.text.toList

/-- Whether the part is an expression that takes several lines: a switch, a lambda with a block, or
    a creation with a class body. -/
def spreads : Part → Bool
  | .expr (.switch _ _) | .expr (.lambda _ (.block _) _) | .expr (.create _ _ (some _) _) => true
  | _ => false

end Part

namespace Expr

/-- No expression that takes several lines lies in the expression. -/
def Inline (e : Expr) : Prop := ∀ q, (Part.expr e).Holds q → q.spreads = false

section Step

attribute [local simp] layout parts texts Part.Shows Part.texts Part.literal? LambdaBody.parts

/-- A line end comes from the expression itself or from one of its operands. -/
theorem mem_chars_layout_step (hc : c ∈ lineEnds) {e : Expr}
    (h : (Part.expr e).spreads = false) (d : Nat) :
    c ∈ (e.layout d).chars ↔
      (Part.expr e).Shows c ∨ ∃ e', .expr e' ∈ e.parts ∧ c ∈ (e'.layout d).chars := by
  have hP := stable_lineEnd_notMem hc
  have hexprs := mem_chars_exprs_iff hc d
  cases e with
  | self qualifier span =>
    cases qualifier <;> simp (disch := decide) [eq_iff_of_lineEnd hc]
  | call receiver n args t span =>
    cases receiver <;> simp (disch := decide) [eq_iff_of_lineEnd hc, hexprs, or_left_comm]
  | unary op operand =>
    have hbefore : c ∉ op.before.toList := hP.plain (by cases op <;> decide)
    have hafter : c ∉ op.after.toList := hP.plain (by cases op <;> decide)
    simp [hbefore, hafter]
  | binary op left right =>
    have hop : c ∉ op.text.toList := hP.plain (by cases op <;> decide)
    simp (disch := decide) [eq_iff_of_lineEnd hc, hop]
  | assign op target value =>
    have hop : c ∉ op.text.toList := hP.plain (by cases op <;> decide)
    simp (disch := decide) [eq_iff_of_lineEnd hc, hop]
  | create type args body span =>
    cases body with
    | none => simp (disch := decide) [eq_iff_of_lineEnd hc, hexprs]
    | some b => cases h
  | newArray element dimensions extra elements =>
    have hdimensions := mem_chars_dimensions_iff hc d
    cases elements <;>
      simp (disch := decide) [eq_iff_of_lineEnd hc, hexprs, hdimensions, or_and_right, exists_or]
  | instanceOf operand type binding =>
    cases binding <;> simp (disch := decide) [eq_iff_of_lineEnd hc, or_comm]
  | «switch» selector cases => cases h
  | lambda params body span =>
    cases body with
    | expr value => simp (disch := decide) [eq_iff_of_lineEnd hc, mem_lambdaParams_iff hc]
    | block statements => cases h
  | _ => simp (disch := decide) [eq_iff_of_lineEnd hc, hexprs, or_comm]

end Step

theorem exists_eq_expr_of_mem_parts {e : Expr} (h : (Part.expr e).spreads = false) {q : Part}
    (hq : q ∈ e.parts) : ∃ e', q = .expr e' := by
  cases e with
  | create _ _ body _ => cases body <;> grind [parts, Part.spreads]
  | lambda _ body _ => cases body <;> grind [parts, LambdaBody.parts, Part.spreads]
  | _ => grind [parts, Part.spreads]

/-- In an expression that stays on its line, a line end is one in a text or literal of the tree. -/
theorem mem_chars_layout_iff (hc : c ∈ lineEnds) {e : Expr} (h : e.Inline) (d : Nat) :
    c ∈ (e.layout d).chars ↔ ∃ q, (Part.expr e).Holds q ∧ q.Shows c := by
  -- The induction is over parts; all parts of such an expression are expressions.
  suffices hparts : ∀ p e, p = Part.expr e → e.Inline →
      (c ∈ (e.layout d).chars ↔ ∃ q, p.Holds q ∧ q.Shows c) from hparts _ e rfl h
  intro p
  induction p using Part.induction with
  | step p ih =>
    rintro e rfl hinline
    have hspreads : (Part.expr e).spreads = false := hinline _ Part.Reaches.refl
    have hoperand : ∀ e', .expr e' ∈ e.parts →
        (c ∈ (e'.layout d).chars ↔ ∃ q, (Part.expr e').Holds q ∧ q.Shows c) := by
      intro e' he'
      refine ih _ he' e' rfl ?_
      intro q hq
      exact hinline q ((Part.holds_of_mem_children he').trans hq)
    rw [mem_chars_layout_step hc hspreads, Part.exists_holds_iff]
    refine or_congr_right ?_
    constructor
    · rintro ⟨e', he', hmem⟩
      exact ⟨.expr e', he', (hoperand e' he').mp hmem⟩
    · rintro ⟨q, hq, hshows⟩
      obtain ⟨e', rfl⟩ := exists_eq_expr_of_mem_parts hspreads hq
      exact ⟨e', hq, (hoperand e' hq).mpr hshows⟩

end Expr

/-! ### Line ends in literals -/

namespace Literal

theorem carriageReturn_mem_escapeInString_iff (x : Char) :
    '\r' ∈ escapeInString x ↔ x = '\r' := by
  unfold escapeInString
  split
  · decide
  · decide
  · decide
  · decide
  · simp [eq_comm]

theorem carriageReturn_mem_escapeInChar_iff (x : Char) : '\r' ∈ escapeInChar x ↔ x = '\r' := by
  unfold escapeInChar
  split
  · decide
  · decide
  · decide
  · simp [eq_comm]

theorem carriageReturn_mem_quoted_iff (s : String) :
    '\r' ∈ (quoted s).toList ↔ '\r' ∈ s.toList := by
  simp [quoted, carriageReturn_mem_escapeInString_iff]

theorem carriageReturn_mem_quotedChar_iff (x : Char) :
    '\r' ∈ (quotedChar x).toList ↔ x = '\r' := by
  simp [quotedChar, carriageReturn_mem_escapeInChar_iff]

/-- A carriage return stands in the text of a literal exactly if the literal holds one. -/
theorem carriageReturn_mem_text_iff (v : Literal) :
    '\r' ∈ v.text.toList ↔ ∃ t ∈ v.contents, '\r' ∈ t.toList := by
  constructor
  · intro hmem
    by_contra hnone
    -- Then no text in quotes has one, and numbers and words never do.
    refine (stable_lineEnd_notMem (c := '\r') (by decide)).literal ?_ ?_ hmem
    · rintro s rfl hs
      exact hnone ⟨s, List.mem_cons_self, (carriageReturn_mem_quoted_iff s).mp hs⟩
    · rintro x rfl hx
      refine hnone ⟨_, List.mem_cons_self, ?_⟩
      simp [(carriageReturn_mem_quotedChar_iff x).mp hx]
  · rintro ⟨t, ht, hmem⟩
    cases v with
    | string s =>
      rw [List.mem_singleton.mp ht] at hmem
      exact (carriageReturn_mem_quoted_iff s).mpr hmem
    | char x =>
      rw [List.mem_singleton.mp ht, String.toList_ofList, List.mem_singleton] at hmem
      exact (carriageReturn_mem_quotedChar_iff x).mpr hmem.symm
    | _ => cases ht

end Literal

theorem Part.eq_literal_of_literal? {p : Part} {v : Literal} (h : v ∈ p.literal?) :
    p = .expr (.literal v) := by
  unfold Part.literal? at h
  split at h
  · rw [Option.some.inj h]
  · cases h

namespace Expr

/-- An expression that stays on its line is printed without a line feed, whatever its literals hold.
    It is printed with a carriage return exactly if one of its literals holds one. -/
theorem lineEnds_render (e : Expr) (hinline : e.Inline)
    (htexts : ∀ q, (Part.expr e).Holds q → ∀ t ∈ q.texts, OneLine t) (d : Nat) :
    '\n' ∉ (e.layout d).render.toList ∧
      ('\r' ∈ (e.layout d).render.toList ↔
        ∃ v, (Part.expr e).Holds (.expr (.literal v)) ∧ ∃ t ∈ v.contents, '\r' ∈ t.toList) := by
  constructor
  · intro hmem
    obtain ⟨q, hq, ⟨t, ht, htc⟩ | ⟨v, -, hvc⟩⟩ :=
      (mem_chars_layout_iff (by decide) hinline d).mp hmem
    · exact htexts q hq t ht '\n' (by decide) htc
    · exact v.lineFeed_notMem_text hvc
  · refine (mem_chars_layout_iff (by decide) hinline d).trans ?_
    constructor
    · rintro ⟨q, hq, ⟨t, ht, htc⟩ | ⟨v, hv, hvc⟩⟩
      · exact absurd htc (htexts q hq t ht '\r' (by decide))
      · rw [Part.eq_literal_of_literal? hv] at hq
        exact ⟨v, hq, v.carriageReturn_mem_text_iff.mp hvc⟩
    · rintro ⟨v, hv, hcontents⟩
      exact ⟨_, hv, Or.inr ⟨v, rfl, v.carriageReturn_mem_text_iff.mpr hcontents⟩⟩

/-- A call with a string that holds a carriage return and a character that is a line feed. -/
def greeting : Expr :=
  .unresolvedCall none "say" [.literal (.string "Dear\rreader"), .literal (.char '\n')]

theorem greeting_inline : greeting.Inline := by
  refine Part.forall_holds_of_level 2 rfl ?_
  decide

theorem greeting_texts :
    ∀ q, (Part.expr greeting).Holds q → ∀ t ∈ q.texts, OneLine t := by
  refine Part.forall_holds_of_level 2 rfl ?_
  decide

theorem greeting_lineEnds_render :
    greeting.Inline ∧
    (∀ q, (Part.expr greeting).Holds q → ∀ t ∈ q.texts, OneLine t) ∧
    '\n' ∉ (greeting.layout 0).render.toList ∧
    ('\r' ∈ (greeting.layout 0).render.toList ↔
      ∃ v, (Part.expr greeting).Holds (.expr (.literal v)) ∧ ∃ t ∈ v.contents, '\r' ∈ t.toList) :=
  ⟨greeting_inline, greeting_texts, greeting.lineEnds_render greeting_inline greeting_texts 0⟩

/-- What the strings of an expression hold can break its line. -/
theorem greeting_breaks_line :
    greeting.Inline ∧
    (∀ q, (Part.expr greeting).Holds q → ∀ t ∈ q.texts, OneLine t) ∧
    '\r' ∈ (greeting.layout 0).render.toList := by
  refine ⟨greeting_inline, greeting_texts, ?_⟩
  decide

end Expr

end Receiverless
