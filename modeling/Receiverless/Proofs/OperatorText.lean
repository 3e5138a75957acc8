/-
  Receiverless/Proofs/OperatorText.lean
  =====================================
  **What the text of an operator expression says.**  Unary operators are printed
  right at their operand, binary ones between two spaces, and parentheses stand
  where the tree has them.  So an operand is a run of signs, a name or a
  parenthesis, and a run of marks (`++`, `--` behind), and its text falls into
  these three again.  Names and parentheses start with neither a sign nor a mark,
  and a space or `)` or the end of the text stands behind an operand.

  One step of this reading fails.  In a run of signs nothing separates one minus
  from the next, so `--` is a decrement or two negations.  All else can be read
  back: two expressions have one text exactly if they agree once every `--` in
  front is read as two minus signs (`Shaped.chars_eq_iff`), and an expression in
  which no minus meets another is given by its text (`render_eq_iff_spelled_eq`).
-/
import Receiverless.Proofs.Layouts
import Receiverless.Proofs.Reading

namespace Receiverless

/-! ### Operator expressions -/

/-- Whether the operator is printed behind its operand. -/
def UnaryOp.isPostfix : UnaryOp → Bool
  | .postIncrement | .postDecrement => true
  | _ => false

theorem UnaryOp.after_of_prefix {op : UnaryOp} (h : op.isPostfix = false) : op.after = "" := by
  cases op with
  | postIncrement => cases h
  | postDecrement => cases h
  | _ => rfl

theorem UnaryOp.before_of_postfix {op : UnaryOp} (h : op.isPostfix = true) : op.before = "" := by
  cases op with
  | postIncrement => rfl
  | postDecrement => rfl
  | _ => cases h

namespace Expr

def isAtom : Expr → Bool
  | .name _ | .paren _ => true
  | _ => false

def isUnary : Expr → Bool
  | .unary _ _ => true
  | _ => false

def isPostfix : Expr → Bool
  | .unary op _ => op.isPostfix
  | _ => false

/-- Whether the expression may be an operand of a binary operator. -/
def isOperand (e : Expr) : Bool := e.isAtom || e.isUnary

/-- Expressions made of names, parentheses and operators, with parentheses wherever an operator
    expression is the operand of one that binds more tightly. -/
inductive Shaped : Expr → Prop where
  | name {n : Name} (nonempty : n.text ≠ "")
      (letters : ∀ c ∈ n.text.toList, c.isAlpha = true) : Shaped (.name n)
  | paren {e : Expr} (inner : Shaped e) : Shaped (.paren e)
  | before {op : UnaryOp} {e : Expr} (hop : op.isPostfix = false)
      (operand : e.isOperand = true) (inner : Shaped e) : Shaped (.unary op e)
  | behind {op : UnaryOp} {e : Expr} (hop : op.isPostfix = true)
      (operand : (e.isAtom || e.isPostfix) = true) (inner : Shaped e) : Shaped (.unary op e)
  | binary {op : BinaryOp} {left right : Expr} (hleft : left.isOperand = true)
      (hright : right.isOperand = true) (first : Shaped left) (second : Shaped right) :
      Shaped (.binary op left right)

/-- An operator expression without spans and without the fields that its names denote. -/
def bare : Expr → Expr
  | .name n => .name { text := n.text }
  | .paren e => .paren e.bare
  | .unary op e => .unary op e.bare
  | .binary op left right => .binary op left.bare right.bare
  | e => e

end Expr

/-- A prefix operator as the signs it is written with: a decrement is two minus signs. -/
def UnaryOp.signs : UnaryOp → List UnaryOp
  | .preDecrement => [.negate, .negate]
  | op => [op]

theorem UnaryOp.signs_of_postfix {op : UnaryOp} (h : op.isPostfix = true) : op.signs = [op] := by
  cases op with
  | preDecrement => cases h
  | _ => rfl

namespace Expr

/-- Prefix operators around an expression, the first one outermost. -/
def signed (ops : List UnaryOp) (e : Expr) : Expr := ops.foldr .unary e

/-- Postfix operators around an expression, the last one outermost. -/
def marked (e : Expr) (ops : List UnaryOp) : Expr := ops.foldl (fun e op => .unary op e) e

/-- The same without spans and fields, and with two negations for every decrement in front. -/
def spelled : Expr → Expr
  | .name n => .name { text := n.text }
  | .paren e => .paren e.spelled
  | .unary op e => signed op.signs e.spelled
  | .binary op left right => .binary op left.spelled right.spelled
  | e => e

/-! ### Texts -/

/-- The printed text. -/
def chars (e : Expr) : List Char := (e.layout 0).render.toList

theorem chars_name (n : Name) : (Expr.name n).chars = n.text.toList := by
  simp [chars, layout, Layout.render_text]

theorem chars_paren (e : Expr) : (Expr.paren e).chars = '(' :: (e.chars ++ [')']) := by
  simp [chars, layout, Layout.render_append, Layout.render_text]

theorem chars_unary (op : UnaryOp) (e : Expr) :
    (Expr.unary op e).chars = op.before.toList ++ (e.chars ++ op.after.toList) := by
  simp [chars, layout, Layout.render_append, Layout.render_text]

theorem chars_binary (op : BinaryOp) (left right : Expr) (r : List Char) :
    (Expr.binary op left right).chars ++ r =
      left.chars ++ ' ' :: (op.text.toList ++ ' ' :: (right.chars ++ r)) := by
  simp [chars, layout, Layout.render_append, Layout.render_text]

theorem chars_signed {ops : List UnaryOp} (h : ∀ op ∈ ops, op.isPostfix = false) (e : Expr) :
    (signed ops e).chars = ops.flatMap (·.before.toList) ++ e.chars := by
  induction ops with
  | nil => rfl
  | cons op ops ih =>
    obtain ⟨hop, hops⟩ := List.forall_mem_cons.mp h
    have hunary := chars_unary op (signed ops e)
    rw [ih hops, UnaryOp.after_of_prefix hop, String.toList_empty, List.append_nil] at hunary
    rw [List.flatMap_cons, List.append_assoc]
    exact hunary

theorem chars_marked {ops : List UnaryOp} (h : ∀ op ∈ ops, op.isPostfix = true) (e : Expr) :
    (marked e ops).chars = e.chars ++ ops.flatMap (·.after.toList) := by
  induction ops generalizing e with
  | nil => simp [marked]
  | cons op ops ih =>
    obtain ⟨hop, hops⟩ := List.forall_mem_cons.mp h
    have hunary := chars_unary op e
    rw [UnaryOp.before_of_postfix hop, String.toList_empty, List.nil_append] at hunary
    rw [List.flatMap_cons, ← List.append_assoc, ← hunary]
    exact ih hops (.unary op e)

/-- Every decrement in front is printed as two minus signs are. -/
theorem chars_spelled {e : Expr} (h : e.Shaped) : e.spelled.chars = e.chars := by
  induction h with
  | name nonempty letters => rw [spelled, chars_name, chars_name]
  | paren inner ih => rw [spelled, chars_paren, chars_paren, ih]
  | @before op e hop operand inner ih =>
    have hsigns : ∀ sign ∈ op.signs, sign.isPostfix = false := by
      cases op <;> simp_all [UnaryOp.signs, UnaryOp.isPostfix]
    have htext : op.signs.flatMap (·.before.toList) = op.before.toList := by
      cases op <;> decide
    rw [spelled, chars_signed hsigns, htext, ih, chars_unary, UnaryOp.after_of_prefix hop,
      String.toList_empty, List.append_nil]
  | @behind op e hop operand inner ih =>
    rw [spelled, UnaryOp.signs_of_postfix hop]
    exact (chars_unary op e.spelled).trans (by rw [ih, chars_unary])
  | @binary op left right hleft hright first second ihl ihr =>
    have hspelled := chars_binary op left.spelled right.spelled []
    rw [ihl, ihr, ← chars_binary, List.append_nil, List.append_nil] at hspelled
    exact hspelled

/-! ### An operand is signs, an atom and marks -/

theorem Shaped.exists_marked {e : Expr} (h : e.Shaped) (hform : (e.isAtom || e.isPostfix) = true) :
    ∃ atom ops, atom.Shaped ∧ atom.isAtom = true ∧ (∀ op ∈ ops, op.isPostfix = true) ∧
      e = marked atom ops ∧ sizeOf atom ≤ sizeOf e := by
  induction h with
  | name nonempty letters =>
    exact ⟨_, [], .name nonempty letters, rfl, List.forall_mem_nil _, rfl, Nat.le_refl _⟩
  | paren inner =>
    exact ⟨_, [], .paren inner, rfl, List.forall_mem_nil _, rfl, Nat.le_refl _⟩
  | before hop operand inner =>
    simp [isAtom, isPostfix, hop] at hform
  | @behind op e hop operand inner ih =>
    obtain ⟨atom, ops, hshaped, hatom, hops, rfl, hsize⟩ := ih operand
    refine ⟨atom, ops ++ [op], hshaped, hatom, ?_, ?_, ?_⟩
    · exact List.forall_mem_append.mpr ⟨hops, List.forall_mem_singleton.mpr hop⟩
    · simp [marked]
    · simp only [unary.sizeOf_spec]
      omega
  | binary => cases hform

theorem Shaped.exists_signed {e : Expr} (h : e.Shaped) (hform : e.isOperand = true) :
    ∃ ops inner, (∀ op ∈ ops, op.isPostfix = false) ∧ inner.Shaped ∧
      (inner.isAtom || inner.isPostfix) = true ∧ e = signed ops inner ∧
      sizeOf inner ≤ sizeOf e := by
  induction h with
  | name nonempty letters =>
    exact ⟨[], _, List.forall_mem_nil _, .name nonempty letters, rfl, rfl, Nat.le_refl _⟩
  | paren inner =>
    exact ⟨[], _, List.forall_mem_nil _, .paren inner, rfl, rfl, Nat.le_refl _⟩
  | @before op e hop operand inner ih =>
    obtain ⟨ops, core, hops, hshaped, hcore, rfl, hsize⟩ := ih operand
    refine ⟨op :: ops, core, List.forall_mem_cons.mpr ⟨hop, hops⟩, hshaped, hcore, rfl, ?_⟩
    simp only [unary.sizeOf_spec]
    omega
  | behind hop operand inner =>
    exact ⟨[], _, List.forall_mem_nil _, .behind hop operand inner, hop, rfl, Nat.le_refl _⟩
  | binary => cases hform

end Expr

/-! ### Runs of operators -/

/-- Words that are told apart by their first letters can be read one by one. -/
theorem eq_of_flatMap_eq {α : Type} {word : α → List Char} {S : α → Prop}
    (hword : ∀ a, S a → word a ≠ [])
    (hfirst : ∀ a b, S a → S b → (word a).head? = (word b).head? → a = b) {as bs : List α}
    (has : ∀ a ∈ as, S a) (hbs : ∀ b ∈ bs, S b) (h : as.flatMap word = bs.flatMap word) :
    as = bs := by
  induction as generalizing bs with
  | nil =>
    cases bs with
    | nil => rfl
    | cons b bs =>
      have hb := hword b (hbs b List.mem_cons_self)
      simp_all
  | cons a as ih =>
    obtain ⟨ha, hrest⟩ := List.forall_mem_cons.mp has
    cases bs with
    | nil => simp_all
    | cons b bs =>
      obtain ⟨hb, hrest'⟩ := List.forall_mem_cons.mp hbs
      have hheads := congrArg List.head? h
      rw [List.flatMap_cons, List.flatMap_cons, List.head?_append_of_ne_nil _ (hword a ha),
        List.head?_append_of_ne_nil _ (hword b hb)] at hheads
      obtain rfl := hfirst a b ha hb hheads
      rw [List.flatMap_cons, List.flatMap_cons] at h
      rw [ih hrest hrest' (List.append_cancel_left h)]

/-- The characters of unary operators. -/
def isSign (c : Char) : Bool := c == '-' || c == '+' || c == '!' || c == '~'

namespace UnaryOp

theorem isSign_of_mem_before {op : UnaryOp} {c : Char} (h : c ∈ op.before.toList) :
    isSign c = true := by
  have hall : op.before.toList.all isSign = true := by cases op <;> decide
  exact List.all_eq_true.mp hall c h

theorem isSign_of_mem_after {op : UnaryOp} {c : Char} (h : c ∈ op.after.toList) :
    isSign c = true := by
  have hall : op.after.toList.all isSign = true := by cases op <;> decide
  exact List.all_eq_true.mp hall c h

theorem eq_of_after_eq {ops ops' : List UnaryOp} (h : ∀ op ∈ ops, op.isPostfix = true)
    (h' : ∀ op ∈ ops', op.isPostfix = true)
    (heq : ops.flatMap (·.after.toList) = ops'.flatMap (·.after.toList)) : ops = ops' := by
  refine eq_of_flatMap_eq ?_ ?_ h h' heq
  · intro op
    cases op <;> decide
  · intro op op'
    cases op <;> cases op' <;> decide

/-- A sign that is not a run of others. -/
def isSimple (op : UnaryOp) : Bool := !op.isPostfix && op != .preDecrement

theorem isSimple_of_mem_signs {op sign : UnaryOp} (h : op.isPostfix = false)
    (hsign : sign ∈ op.signs) : sign.isSimple = true := by
  have hall : ∀ s ∈ op.signs, s.isSimple = true := by
    revert h
    cases op <;> decide
  exact hall sign hsign

theorem before_signs (op : UnaryOp) : op.signs.flatMap (·.before.toList) = op.before.toList := by
  cases op <;> decide

/-- A run of signs is read up to the spelling of the decrements in it. -/
theorem signs_eq_of_before_eq {ops ops' : List UnaryOp} (h : ∀ op ∈ ops, op.isPostfix = false)
    (h' : ∀ op ∈ ops', op.isPostfix = false)
    (heq : ops.flatMap (·.before.toList) = ops'.flatMap (·.before.toList)) :
    ops.flatMap signs = ops'.flatMap signs := by
  have hsimple : ∀ run : List UnaryOp, (∀ op ∈ run, op.isPostfix = false) →
      ∀ sign ∈ run.flatMap signs, sign.isSimple = true := by
    intro run hrun sign hsign
    obtain ⟨op, hop, hmem⟩ := List.mem_flatMap.mp hsign
    exact isSimple_of_mem_signs (hrun op hop) hmem
  have htext : ∀ run : List UnaryOp, (run.flatMap signs).flatMap (·.before.toList) =
      run.flatMap (·.before.toList) := by
    intro run
    simp only [List.flatMap_assoc, before_signs]
  rw [← htext ops, ← htext ops'] at heq
  refine eq_of_flatMap_eq ?_ ?_ (hsimple ops h) (hsimple ops' h') heq
  · intro op
    cases op <;> decide
  · intro op op'
    cases op <;> cases op' <;> decide

end UnaryOp

namespace BinaryOp

theorem text_no_space (op : BinaryOp) : ∀ c ∈ op.text.toList, (c != ' ') = true := by
  have hall : op.text.toList.all (· != ' ') = true := by cases op <;> decide
  exact List.all_eq_true.mp hall

theorem eq_of_text_eq {op op' : BinaryOp} (h : op.text.toList = op'.text.toList) : op = op' := by
  revert h
  cases op <;> cases op' <;> decide

end BinaryOp

/-! ### Reading the parts of an operand -/

theorem isSign_of_isAlpha {c : Char} (h : c.isAlpha = true) : isSign c = false := by
  cases hsign : isSign c with
  | false => rfl
  | true =>
    simp only [isSign, Bool.or_eq_true, beq_iff_eq] at hsign
    rcases hsign with ((rfl | rfl) | rfl) | rfl <;> exact absurd h (by decide)

namespace Expr

/-- What may stand behind an operand. -/
def Stops (r : List Char) : Prop := ∀ c ∈ r.head?, c = ')' ∨ c = ' '

/-- What may stand behind a whole expression. -/
def Ends (r : List Char) : Prop := ∀ c ∈ r.head?, c = ')'

/-- Where the text of the expression stands, no other expression can be read, up to the spelling
    of decrements. -/
def ReadsBack (e : Expr) : Prop :=
  ∀ {e' : Expr} {r r' : List Char}, e'.Shaped → Ends r → Ends r' →
    e.chars ++ r = e'.chars ++ r' → e.spelled = e'.spelled ∧ r = r'

theorem name_ne_paren {n : Name} (nonempty : n.text ≠ "")
    (letters : ∀ c ∈ n.text.toList, c.isAlpha = true) (e : Expr) (r r' : List Char) :
    (Expr.name n).chars ++ r ≠ (Expr.paren e).chars ++ r' := by
  rw [chars_name, chars_paren]
  intro h
  cases htext : n.text.toList with
  | nil => exact nonempty (String.toList_eq_nil_iff.mp htext)
  | cons c cs =>
    rw [htext] at h
    have hletter := letters c (by simp [htext])
    rw [(List.cons.inj h).1] at hletter
    exact absurd hletter (by decide)

theorem Shaped.head_chars {a : Expr} (h : a.Shaped) (hatom : a.isAtom = true) (r : List Char) :
    ∀ c ∈ (a.chars ++ r).head?, isSign c = false := by
  intro c hc
  cases h with
  | @name n nonempty letters =>
    rw [chars_name, List.head?_append_of_ne_nil _ (by simpa using nonempty)] at hc
    exact isSign_of_isAlpha (letters c (List.mem_of_mem_head? hc))
  | paren inner =>
    rw [chars_paren] at hc
    obtain rfl : '(' = c := by simpa using hc
    decide
  | before => cases hatom
  | behind => cases hatom
  | binary => cases hatom

theorem read_atom {a a' : Expr} (ha : a.Shaped) (hatom : a.isAtom = true) (ha' : a'.Shaped)
    (hatom' : a'.isAtom = true) (ih : ∀ e, a = .paren e → e.ReadsBack) {r r' : List Char}
    (hr : ∀ c ∈ r.head?, c.isAlpha = false) (hr' : ∀ c ∈ r'.head?, c.isAlpha = false)
    (h : a.chars ++ r = a'.chars ++ r') : a.spelled = a'.spelled ∧ r = r' := by
  cases ha with
  | @name n nonempty letters =>
    cases ha' with
    | @name n' nonempty' letters' =>
      rw [chars_name, chars_name] at h
      obtain ⟨htext, hrest⟩ := append_cut letters letters' hr hr' h
      rw [spelled, spelled, String.toList_inj.mp htext]
      exact ⟨rfl, hrest⟩
    | paren inner' => exact absurd h (name_ne_paren nonempty letters _ _ _)
    | before => cases hatom'
    | behind => cases hatom'
    | binary => cases hatom'
  | @paren e inner =>
    cases ha' with
    | name nonempty' letters' => exact absurd h.symm (name_ne_paren nonempty' letters' _ _ _)
    | paren inner' =>
      rw [chars_paren, chars_paren] at h
      simp only [List.cons_append, List.append_assoc, List.nil_append] at h
      have hclosed : ∀ rest, Ends (')' :: rest) := by
        intro rest c hc
        simpa using hc.symm
      obtain ⟨hinner, hrest⟩ := ih e rfl inner' (hclosed r) (hclosed r') (List.cons.inj h).2
      rw [spelled, spelled, hinner]
      exact ⟨rfl, (List.cons.inj hrest).2⟩
    | before => cases hatom'
    | behind => cases hatom'
    | binary => cases hatom'
  | before => cases hatom
  | behind => cases hatom
  | binary => cases hatom

theorem spelled_signed (ops : List UnaryOp) (e : Expr) :
    (signed ops e).spelled = signed (ops.flatMap UnaryOp.signs) e.spelled := by
  induction ops with
  | nil => rfl
  | cons op ops ih =>
    have hunary : (signed (op :: ops) e).spelled = signed op.signs (signed ops e).spelled := rfl
    rw [hunary, ih, List.flatMap_cons]
    simp only [signed, List.foldr_append]

theorem spelled_marked {ops : List UnaryOp} (h : ∀ op ∈ ops, op.isPostfix = true) (e : Expr) :
    (marked e ops).spelled = marked e.spelled ops := by
  induction ops generalizing e with
  | nil => rfl
  | cons op ops ih =>
    obtain ⟨hop, hops⟩ := List.forall_mem_cons.mp h
    have hunary : (Expr.unary op e).spelled = .unary op e.spelled := by
      rw [spelled, UnaryOp.signs_of_postfix hop]
      rfl
    have hmarked := ih hops (.unary op e)
    rw [hunary] at hmarked
    exact hmarked

/-- Behind the atom of an operand no further letter stands. -/
theorem Stops.not_isAlpha {r : List Char} (h : Stops r) (marks : List UnaryOp) :
    ∀ c ∈ (marks.flatMap (·.after.toList) ++ r).head?, c.isAlpha = false := by
  intro c hc
  by_contra hletter
  rw [Bool.not_eq_false] at hletter
  by_cases hnone : marks.flatMap (·.after.toList) = []
  · rw [hnone, List.nil_append] at hc
    rcases h c hc with rfl | rfl <;> exact absurd hletter (by decide)
  · rw [List.head?_append_of_ne_nil _ hnone] at hc
    obtain ⟨op, -, hop⟩ := List.mem_flatMap.mp (List.mem_of_mem_head? hc)
    have hsign := UnaryOp.isSign_of_mem_after hop
    rw [isSign_of_isAlpha hletter] at hsign
    cases hsign

theorem Stops.not_isSign {r : List Char} (h : Stops r) : ∀ c ∈ r.head?, isSign c = false := by
  intro c hc
  rcases h c hc with rfl | rfl <;> decide

theorem Ends.stops {r : List Char} (h : Ends r) : Stops r := fun c hc => Or.inl (h c hc)

theorem stops_space (r : List Char) : Stops (' ' :: r) := by
  intro c hc
  simpa using Or.inr hc.symm

theorem not_ends_space (r : List Char) : ¬ Ends (' ' :: r) := by
  intro h
  exact absurd (h ' ' rfl) (by decide)

theorem read_operand {n : Nat} (ih : ∀ x : Expr, x.Shaped → sizeOf x < n → x.ReadsBack)
    {e e' : Expr} (hn : sizeOf e ≤ n) (he : e.Shaped) (hform : e.isOperand = true)
    (he' : e'.Shaped) (hform' : e'.isOperand = true) {r r' : List Char} (hr : Stops r)
    (hr' : Stops r') (h : e.chars ++ r = e'.chars ++ r') : e.spelled = e'.spelled ∧ r = r' := by
  obtain ⟨ops, core, hops, hcore, hcoreForm, rfl, hsize⟩ := he.exists_signed hform
  obtain ⟨atom, marks, hatom, hatomForm, hmarks, rfl, hsize'⟩ := hcore.exists_marked hcoreForm
  obtain ⟨ops', core', hops', hcore', hcoreForm', rfl, -⟩ := he'.exists_signed hform'
  obtain ⟨atom', marks', hatom', hatomForm', hmarks', rfl, -⟩ := hcore'.exists_marked hcoreForm'
  rw [chars_signed hops, chars_signed hops', chars_marked hmarks, chars_marked hmarks'] at h
  simp only [List.append_assoc] at h
  have hsign : ∀ run : List UnaryOp, ∀ c ∈ run.flatMap (·.before.toList), isSign c = true := by
    intro run c hc
    obtain ⟨op, -, hop⟩ := List.mem_flatMap.mp hc
    exact UnaryOp.isSign_of_mem_before hop
  have hmark : ∀ run : List UnaryOp, ∀ c ∈ run.flatMap (·.after.toList), isSign c = true := by
    intro run c hc
    obtain ⟨op, -, hop⟩ := List.mem_flatMap.mp hc
    exact UnaryOp.isSign_of_mem_after hop
  -- The signs end at the atom, the atom at the marks, and the marks at what stops the operand.
  obtain ⟨hsigns, h⟩ := append_cut (hsign ops) (hsign ops') (hatom.head_chars hatomForm _)
    (hatom'.head_chars hatomForm' _) h
  have hinner : ∀ inner, atom = .paren inner → inner.ReadsBack := by
    rintro inner rfl
    cases hatom with
    | paren hinner =>
      refine ih inner hinner ?_
      simp only [paren.sizeOf_spec] at hsize'
      omega
  obtain ⟨hatoms, h⟩ := read_atom hatom hatomForm hatom' hatomForm' hinner (hr.not_isAlpha marks)
    (hr'.not_isAlpha marks') h
  obtain ⟨hmarksText, hrest⟩ := append_cut (hmark marks) (hmark marks') hr.not_isSign
    hr'.not_isSign h
  refine ⟨?_, hrest⟩
  rw [spelled_signed, spelled_signed, UnaryOp.signs_eq_of_before_eq hops hops' hsigns,
    spelled_marked hmarks, spelled_marked hmarks', hatoms,
    UnaryOp.eq_of_after_eq hmarks hmarks' hmarksText]

/-! ### Reading a whole expression -/

theorem Shaped.operand_or_binary {e : Expr} (h : e.Shaped) :
    e.isOperand = true ∨ ∃ op left right, e = .binary op left right ∧ left.Shaped ∧
      left.isOperand = true ∧ right.Shaped ∧ right.isOperand = true := by
  cases h with
  | name nonempty letters => exact Or.inl rfl
  | paren inner => exact Or.inl rfl
  | before hop operand inner => exact Or.inl rfl
  | behind hop operand inner => exact Or.inl rfl
  | binary hleft hright first second =>
    exact Or.inr ⟨_, _, _, rfl, first, hleft, second, hright⟩

theorem Shaped.readsBack {e : Expr} (he : e.Shaped) : e.ReadsBack := by
  induction hn : sizeOf e using Nat.strongRecOn generalizing e with
  | _ n ih =>
    have hsmaller : ∀ x : Expr, x.Shaped → sizeOf x < n → x.ReadsBack :=
      fun x hx hlt => ih _ hlt hx rfl
    intro e' r r' he' hr hr' h
    rcases he.operand_or_binary with hform | ⟨op, left, right, rfl, hleft, hlform, hright, hrform⟩
    · rcases he'.operand_or_binary with
        hform' | ⟨op', left', right', rfl, hleft', hlform', hright', hrform'⟩
      · exact read_operand hsmaller (Nat.le_of_eq hn) he hform he' hform' hr.stops hr'.stops h
      · rw [chars_binary] at h
        obtain ⟨-, hrest⟩ :=
          read_operand hsmaller (Nat.le_of_eq hn) he hform hleft' hlform' hr.stops
            (stops_space _) h
        exact absurd (hrest ▸ hr) (not_ends_space _)
    · have hsizes : sizeOf left ≤ n ∧ sizeOf right ≤ n := by
        simp only [binary.sizeOf_spec] at hn
        omega
      rw [chars_binary] at h
      rcases he'.operand_or_binary with
        hform' | ⟨op', left', right', rfl, hleft', hlform', hright', hrform'⟩
      · obtain ⟨-, hrest⟩ := read_operand hsmaller hsizes.1 hleft hlform he' hform'
          (stops_space _) hr'.stops h
        exact absurd (hrest ▸ hr') (not_ends_space _)
      · rw [chars_binary] at h
        obtain ⟨hlefts, h⟩ := read_operand hsmaller hsizes.1 hleft hlform hleft' hlform'
          (stops_space _) (stops_space _) h
        obtain ⟨htext, h⟩ := append_cut op.text_no_space op'.text_no_space (by simp) (by simp)
          (List.cons.inj h).2
        obtain ⟨hrights, hrest⟩ := read_operand hsmaller hsizes.2 hright hrform hright' hrform'
          hr.stops hr'.stops (List.cons.inj h).2
        rw [spelled, spelled, hlefts, hrights, BinaryOp.eq_of_text_eq htext]
        exact ⟨rfl, hrest⟩

/-- Two expressions have one text exactly if they are one expression once every decrement in front
    is spelled as two minus signs. -/
theorem Shaped.chars_eq_iff {e e' : Expr} (he : e.Shaped) (he' : e'.Shaped) :
    e.chars = e'.chars ↔ e.spelled = e'.spelled := by
  constructor
  · intro h
    have hends : Ends [] := fun c hc => by cases hc
    exact (he.readsBack he' hends hends (congrArg (· ++ []) h)).1
  · intro h
    rw [← chars_spelled he, h, chars_spelled he']

end Expr

/-! ### Where minus signs meet -/

/-- Whether the second operator, printed right behind the first one, is read together with it. -/
def UnaryOp.meets : UnaryOp → UnaryOp → Bool
  | .negate, .negate | .negate, .preDecrement | .preDecrement, .negate => true
  | _, _ => false

namespace Expr

def meetsBehind (op : UnaryOp) : Expr → Bool
  | .unary op' _ => op.meets op'
  | _ => false

/-- No minus sign is printed right behind another one that does not belong to it. -/
def apart : Expr → Bool
  | .paren e => e.apart
  | .unary op e => !e.meetsBehind op && e.apart
  | .binary _ left right => left.apart && right.apart
  | _ => true

/-- Only negations and decrements are spelled with a minus sign in front. -/
theorem Shaped.spelled_negate {e x : Expr} (h : e.Shaped)
    (hspelled : e.spelled = .unary .negate x) :
    e.meetsBehind .negate = true := by
  cases h with
  | before | behind =>
    rename_i op inner _ _ _
    cases op <;> simp_all [spelled, signed, UnaryOp.signs, meetsBehind, UnaryOp.meets]
  | _ => simp [spelled] at hspelled

/-- Operators that meet no minus sign are told apart by their spelling. -/
theorem eq_of_signed_eq {op op' : UnaryOp} {x x' : Expr} (hx : x.Shaped) (hx' : x'.Shaped)
    (hmeets : x.meetsBehind op = false) (hmeets' : x'.meetsBehind op' = false)
    (h : signed op.signs x.spelled = signed op'.signs x'.spelled) :
    op = op' ∧ x.spelled = x'.spelled := by
  have hother : ∀ op : UnaryOp, op ≠ .preDecrement → op.signs = [op] := by
    intro op hop
    cases op with
    | preDecrement => exact absurd rfl hop
    | _ => rfl
  -- A decrement and a negation start alike; the negation then has another minus behind it.
  have hclash : ∀ {op : UnaryOp} {x y : Expr}, x.Shaped → x.meetsBehind op = false →
      op ≠ .preDecrement →
      signed UnaryOp.preDecrement.signs y.spelled ≠ signed op.signs x.spelled := by
    intro op x y hx hmeets hop heq
    rw [hother op hop] at heq
    obtain ⟨rfl, hx'⟩ := unary.inj heq
    rw [hx.spelled_negate hx'.symm] at hmeets
    cases hmeets
  by_cases hop : op = .preDecrement
  · by_cases hop' : op' = .preDecrement
    · subst hop hop'
      exact ⟨rfl, (unary.inj (unary.inj h).2).2⟩
    · subst hop
      exact absurd h (hclash hx' hmeets' hop')
  · by_cases hop' : op' = .preDecrement
    · subst hop'
      exact absurd h.symm (hclash hx hmeets hop)
    · rw [hother op hop, hother op' hop'] at h
      exact unary.inj h

theorem isUnary_spelled_unary (op : UnaryOp) (x : Expr) :
    (Expr.unary op x).spelled.isUnary = true := by
  cases op <;> rfl

theorem Shaped.exists_of_isUnary {e : Expr} (h : e.Shaped) (hspelled : e.spelled.isUnary = true) :
    ∃ op x, x.Shaped ∧ e = .unary op x := by
  cases h with
  | before hop operand inner => exact ⟨_, _, inner, rfl⟩
  | behind hop operand inner => exact ⟨_, _, inner, rfl⟩
  | _ => cases hspelled

theorem bare_eq_unary {op : UnaryOp} {x e' : Expr} (hx : x.Shaped) (he' : e'.Shaped)
    (hapart : (Expr.unary op x).apart = true) (hapart' : e'.apart = true)
    (h : (Expr.unary op x).spelled = e'.spelled)
    (ih : ∀ {x' : Expr}, x'.Shaped → x.apart = true → x'.apart = true →
      x.spelled = x'.spelled → x.bare = x'.bare) :
    (Expr.unary op x).bare = e'.bare := by
  have hunary := isUnary_spelled_unary op x
  rw [h] at hunary
  obtain ⟨op', x', hx', rfl⟩ := he'.exists_of_isUnary hunary
  simp only [apart, Bool.and_eq_true, Bool.not_eq_true'] at hapart hapart'
  obtain ⟨rfl, hinner⟩ := eq_of_signed_eq hx hx' hapart.1 hapart'.1 h
  rw [bare, bare, ih hx' hapart.2 hapart'.2 hinner]

theorem spelled_unary_ne {op : UnaryOp} {x y : Expr} (hy : y.isUnary = false) :
    (Expr.unary op x).spelled ≠ y := by
  rintro rfl
  rw [isUnary_spelled_unary] at hy
  cases hy

theorem Shaped.bare_eq {e e' : Expr} (he : e.Shaped) (he' : e'.Shaped) (hapart : e.apart = true)
    (hapart' : e'.apart = true) (h : e.spelled = e'.spelled) : e.bare = e'.bare := by
  induction he generalizing e' with
  | name nonempty letters =>
    cases he' with
    | name nonempty' letters' => exact h
    | before | behind => exact absurd h.symm (spelled_unary_ne rfl)
    | _ => cases h
  | paren inner ih =>
    cases he' with
    | paren inner' => rw [bare, bare, ih inner' hapart hapart' (paren.inj h)]
    | before | behind => exact absurd h.symm (spelled_unary_ne rfl)
    | _ => cases h
  | before hop operand inner ih => exact bare_eq_unary inner he' hapart hapart' h ih
  | behind hop operand inner ih => exact bare_eq_unary inner he' hapart hapart' h ih
  | binary hleft hright first second ihl ihr =>
    cases he' with
    | binary hleft' hright' first' second' =>
      simp only [apart, Bool.and_eq_true] at hapart hapart'
      obtain ⟨rfl, hlefts, hrights⟩ := binary.inj h
      rw [bare, bare, ihl first' hapart.1 hapart'.1 hlefts, ihr second' hapart.2 hapart'.2 hrights]
    | before | behind => exact absurd h.symm (spelled_unary_ne rfl)
    | _ => cases h

/-- **What the text of an operator expression says.**  Two expressions are printed alike exactly if
    they agree, spans and fields aside, once every decrement in front is read as two minus signs.
    Where no minus sign meets another, nothing is left open: the text is that of one expression. -/
theorem render_eq_iff_spelled_eq {e e' : Expr} (he : e.Shaped) (he' : e'.Shaped) :
    ((e.layout 0).render = (e'.layout 0).render ↔ e.spelled = e'.spelled) ∧
      (e.apart = true → e'.apart = true → (e.layout 0).render = (e'.layout 0).render →
        e.bare = e'.bare) := by
  have hread : (e.layout 0).render = (e'.layout 0).render ↔ e.spelled = e'.spelled := by
    rw [← String.toList_inj]
    exact he.chars_eq_iff he'
  refine ⟨hread, ?_⟩
  intro hapart hapart' h
  exact he.bare_eq he' hapart hapart' (hread.mp h)

/-- The name `x`, with the field it denotes. -/
def fieldX (owner : String) : Expr := .name { text := "x", field := some ⟨owner, "x", "int"⟩ }

theorem shaped_fieldX (owner : String) : (fieldX owner).Shaped := by
  have hnonempty : "x" ≠ "" := by decide
  have hletters : "x".toList.all Char.isAlpha = true := by decide
  exact .name hnonempty (List.all_eq_true.mp hletters)

/-- `-x++ - --x`, where `x` denotes the field of a class. -/
def mixture (owner : String) : Expr :=
  .binary .subtract (.unary .negate (.unary .postIncrement (fieldX owner)))
    (.unary .preDecrement (fieldX owner))

theorem shaped_mixture (owner : String) : (mixture owner).Shaped :=
  .binary rfl rfl (.before rfl rfl (.behind rfl rfl (shaped_fieldX owner)))
    (.before rfl rfl (shaped_fieldX owner))

theorem mixture_text_determines :
    ((mixture "A").layout 0).render = "-x++ - --x" ∧ (mixture "A").apart = true ∧
      (mixture "A").spelled = (mixture "B").spelled ∧ (mixture "A").bare = (mixture "B").bare := by
  have hread := render_eq_iff_spelled_eq (shaped_mixture "A") (shaped_mixture "B")
  have htext : ((mixture "A").layout 0).render = ((mixture "B").layout 0).render := by decide
  exact ⟨by decide, by decide, hread.1.mp htext, hread.2 (by decide) (by decide) htext⟩

/-- Two negations are printed as a decrement is, with the name negated changed by the one and not by
    the other. -/
theorem negations_print_as_decrement :
    (Expr.unary .negate (.unary .negate (fieldX "A"))).Shaped ∧
      (Expr.unary .preDecrement (fieldX "A")).Shaped ∧
      ((Expr.unary .negate (.unary .negate (fieldX "A"))).layout 0).render =
        ((Expr.unary .preDecrement (fieldX "A")).layout 0).render ∧
      (Expr.unary .negate (.unary .negate (fieldX "A"))).bare ≠
        (Expr.unary .preDecrement (fieldX "A")).bare := by
  have hx := shaped_fieldX "A"
  refine ⟨.before rfl rfl (.before rfl rfl hx), .before rfl rfl hx, by decide, ?_⟩
  intro h
  cases h

end Expr

end Receiverless
