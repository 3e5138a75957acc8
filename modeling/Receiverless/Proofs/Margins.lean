/-
  Receiverless/Proofs/Margins.lean
  ================================
  **Depth is margin only.**  Printed deeper, a member has the same lines, each one
  with more spaces in front of it; empty lines stay empty (`Member.render_layout_add`).

  The lines of a text are not the lines of its parts, since a part may end within a
  line.  So the shift is computed by going through the characters once, with one bit
  of state: whether the next character is the first of its line (`Text.padded`,
  `Text.atLineStart`).  This runs over a concatenation part by part.  A part of a line
  starts and ends within a line, whole lines start and end at a line start, and so
  `Layout.Shift` says for each shape what a greater depth does to it.
-/
import Receiverless.Draft.Shorthand
import Receiverless.Proofs.LiteralTexts

namespace Receiverless

/-! ### Lines with spaces in front -/

namespace Text

/-- The text with spaces in front of each line that is not empty. -/
def indentLines (width : Nat) (s : String) : String :=
  let pad line := if line.isEmpty then line else List.replicate width ' ' ++ line
  String.ofList (['\n'].intercalate ((s.toList.splitOn '\n').map pad))

example : indentLines 2 "a\n\n b\n" = "  a\n\n   b\n" := by decide

/-- The spaces are put in front of a character if it starts a line; `start` says whether the first
    one does. -/
def padded (pad : List Char) : Bool → List Char → List Char
  | _, [] => []
  | start, c :: cs =>
    if c = '\n' then c :: padded pad true cs
    else if start then pad ++ c :: padded pad false cs
    else c :: padded pad false cs

/-- Whether a character behind the text would start a line. -/
def atLineStart (start : Bool) : List Char → Bool
  | [] => start
  | c :: cs => atLineStart (decide (c = '\n')) cs

variable {pad : List Char}

theorem padded_append (start : Bool) (s t : List Char) :
    padded pad start (s ++ t) = padded pad start s ++ padded pad (atLineStart start s) t := by
  induction s generalizing start with
  | nil => rfl
  | cons c cs ih =>
    by_cases hc : c = '\n'
    · simp [padded, atLineStart, hc, ih]
    · cases start
      · simp [padded, atLineStart, hc, ih]
      · simp [padded, atLineStart, hc, ih]

theorem atLineStart_append (start : Bool) (s t : List Char) :
    atLineStart start (s ++ t) = atLineStart (atLineStart start s) t := by
  induction s generalizing start with
  | nil => rfl
  | cons c cs ih => exact ih _

theorem padded_of_lineFeed_notMem {s : List Char} (h : '\n' ∉ s) : padded pad false s = s := by
  induction s with
  | nil => rfl
  | cons c cs ih =>
    rw [List.mem_cons, not_or] at h
    simp [padded, Ne.symm h.1, ih h.2]

theorem atLineStart_of_lineFeed_notMem {s : List Char} (h : '\n' ∉ s) :
    atLineStart false s = false := by
  induction s with
  | nil => rfl
  | cons c cs ih =>
    rw [List.mem_cons, not_or] at h
    rw [atLineStart, decide_eq_false (Ne.symm h.1)]
    exact ih h.2

theorem padded_true_cons {c : Char} (hc : c ≠ '\n') (s : List Char) :
    padded pad true (c :: s) = pad ++ padded pad false (c :: s) := by
  simp [padded, hc]

theorem intercalate_cons_append {α : Type} (separator front line : List α) (rest : List (List α)) :
    separator.intercalate ((front ++ line) :: rest) =
      front ++ separator.intercalate (line :: rest) := by
  cases rest with
  | nil => simp
  | cons next rest => simp [List.intercalate_cons_cons]

/-- Going through the characters once gives what the lines give; of a text that starts within a
    line, the first line is left alone. -/
theorem padded_eq_intercalate (pad s : List Char) :
    let indent (line : List Char) := if line.isEmpty then line else pad ++ line
    ∃ line rest, s.splitOn '\n' = line :: rest ∧
      padded pad false s = ['\n'].intercalate (line :: rest.map indent) ∧
      padded pad true s = ['\n'].intercalate (indent line :: rest.map indent) := by
  intro indent
  induction s with
  | nil => exact ⟨[], [], rfl, rfl, rfl⟩
  | cons c cs ih =>
    obtain ⟨line, rest, hlines, hinside, hstart⟩ := ih
    rw [List.splitOn_cons_eq_if_modifyHead, hlines]
    by_cases hc : c = '\n'
    · refine ⟨[], line :: rest, by simp [hc], ?_, ?_⟩
      · simp [padded, hc, hstart, List.intercalate_cons_cons]
      · simp [padded, hc, hstart, List.intercalate_cons_cons, indent]
    · refine ⟨c :: line, rest, by simp [hc], ?_, ?_⟩
      · rw [padded, if_neg hc, if_neg Bool.false_ne_true, hinside]
        exact (intercalate_cons_append _ [c] line _).symm
      · have hindent : indent (c :: line) = (pad ++ [c]) ++ line := by simp [indent]
        rw [padded, if_neg hc, if_pos rfl, hinside, hindent, intercalate_cons_append]
        simp

theorem toList_indentLines (width : Nat) (s : String) :
    (indentLines width s).toList = padded (List.replicate width ' ') true s.toList := by
  obtain ⟨line, rest, hlines, -, hstart⟩ :=
    padded_eq_intercalate (List.replicate width ' ') s.toList
  rw [hstart, indentLines, String.toList_ofList, hlines, List.map_cons]

theorem stable_lineFeed_notMem : Stable fun s => '\n' ∉ s.toList :=
  stable_lineEnd_notMem List.mem_cons_self

end Text

open Text

theorem toList_marginText (depth : Nat) :
    (marginText depth).toList = List.replicate (4 * depth) ' ' := by
  induction depth with
  | zero => rfl
  | succ depth ih =>
    have hunit : indentUnit.toList = List.replicate 4 ' ' := by decide
    rw [marginText, String.toList_append, ih, hunit, List.replicate_append_replicate]
    congr 1
    omega

theorem lineFeed_notMem_marginText (depth : Nat) : '\n' ∉ (marginText depth).toList := by
  rw [toList_marginText]
  intro hmem
  exact absurd (List.eq_of_mem_replicate hmem) (by decide)

theorem marginText_add (k d : Nat) :
    (marginText (k + d)).toList = (marginText k).toList ++ (marginText d).toList := by
  rw [toList_marginText, toList_marginText, toList_marginText, List.replicate_append_replicate,
    Nat.mul_add]

/-! ### Shifted layouts -/

namespace Layout

def chars (l : Layout) : List Char := l.render.toList

@[simp] theorem chars_nil : chars [] = [] := rfl

@[simp] theorem chars_append (l m : Layout) : chars (l ++ m) = chars l ++ chars m := by
  rw [chars, render_append, String.toList_append, chars, chars]

@[simp] theorem chars_text (s : String) : chars (text s) = s.toList := by
  rw [chars, render_text]

@[simp] theorem chars_cons_text (s : String) (l : Layout) :
    chars (.text s :: l) = s.toList ++ chars l := by
  simp [chars, render, Chunk.render, String.join_cons]

@[simp] theorem chars_cons_newline (l : Layout) : chars (.newline :: l) = '\n' :: chars l := by
  simp [chars, render, Chunk.render, String.join_cons]

@[simp] theorem chars_cons_margin (depth : Nat) (l : Layout) :
    chars (.margin depth :: l) = (marginText depth).toList ++ chars l := by
  simp [chars, render, Chunk.render, String.join_cons]

/-- A part of a line that becomes `t`: it starts and ends within a line. -/
structure PieceShift (pad s t : List Char) : Prop where
  shifted : t = padded pad false s
  ends : atLineStart false s = false
  starts : ∀ c ∈ s.head?, c ≠ '\n'

/-- Whole lines that become `t`. -/
structure LinesShift (pad s t : List Char) : Prop where
  shifted : t = padded pad true s
  ends : atLineStart true s = true

section Shift

variable {pad s t s' t' : List Char}

namespace PieceShift

theorem of_lineFeed_notMem (h : '\n' ∉ s) : PieceShift pad s s where
  shifted := (padded_of_lineFeed_notMem h).symm
  ends := atLineStart_of_lineFeed_notMem h
  starts _ hc heq := h (heq ▸ List.mem_of_mem_head? hc)

theorem append (h : PieceShift pad s t) (h' : PieceShift pad s' t') :
    PieceShift pad (s ++ s') (t ++ t') where
  shifted := by rw [padded_append, h.ends, ← h.shifted, ← h'.shifted]
  ends := by rw [atLineStart_append, h.ends, h'.ends]
  starts := by
    cases s with
    | nil => exact h'.starts
    | cons c cs => exact h.starts

/-- At the start of a line, a part with some text gets the spaces. -/
theorem padded_true (h : PieceShift pad s t) (hne : s ≠ []) : padded pad true s = pad ++ t := by
  cases s with
  | nil => exact absurd rfl hne
  | cons c cs => rw [padded_true_cons (h.starts c rfl), h.shifted]

theorem atLineStart_true (h : PieceShift pad s t) (hne : s ≠ []) : atLineStart true s = false := by
  cases s with
  | nil => exact absurd rfl hne
  | cons c cs => exact h.ends

/-- The rest of one line, whole lines, and the start of one more. -/
theorem across {l l' : List Char} (h : PieceShift pad s t) (hne : s ≠ [])
    (hlines : LinesShift pad l l') (h' : PieceShift pad s' t') (hne' : s' ≠ []) :
    PieceShift pad (s ++ '\n' :: (l ++ s')) (t ++ '\n' :: (l' ++ (pad ++ t'))) where
  shifted := by
    rw [padded_append, h.ends, ← h.shifted, padded, if_pos rfl, padded_append, hlines.ends,
      ← hlines.shifted, h'.padded_true hne']
  ends := by
    rw [atLineStart_append, h.ends, atLineStart, decide_eq_true rfl, atLineStart_append,
      hlines.ends, h'.atLineStart_true hne']
  starts := by
    cases s with
    | nil => exact absurd rfl hne
    | cons c cs => exact h.starts

/-- A line with its end. -/
theorem line (h : PieceShift pad s t) (hne : s ≠ []) :
    LinesShift pad (s ++ ['\n']) (pad ++ t ++ ['\n']) where
  shifted := by
    rw [padded_append, h.padded_true hne, h.atLineStart_true hne]
    rfl
  ends := by
    rw [atLineStart_append]
    rfl

/-- A margin in front. -/
theorem behindMargin (h : PieceShift pad s t) (depth : Nat) :
    PieceShift pad ((marginText depth).toList ++ s) ((marginText depth).toList ++ t) :=
  append (of_lineFeed_notMem (lineFeed_notMem_marginText depth)) h

end PieceShift

namespace LinesShift

theorem nil : LinesShift pad [] [] := ⟨rfl, rfl⟩

theorem blank : LinesShift pad ['\n'] ['\n'] := ⟨rfl, rfl⟩

theorem append (h : LinesShift pad s t) (h' : LinesShift pad s' t') :
    LinesShift pad (s ++ s') (t ++ t') where
  shifted := by rw [padded_append, h.ends, ← h.shifted, ← h'.shifted]
  ends := by rw [atLineStart_append, h.ends, h'.ends]

end LinesShift

end Shift

/-- What `k` more levels of depth do to the characters of a layout. -/
def Shifts (k : Nat) : Shape → List Char → List Char → Prop
  | .piece, s, t => PieceShift (marginText k).toList s t
  | .solid, s, t => PieceShift (marginText k).toList s t ∧ s ≠ []
  | .lines, s, t => LinesShift (marginText k).toList s t

theorem Formed.shifts {shape : Shape} {f : Nat → Layout}
    (h : Formed (fun s => '\n' ∉ s.toList) shape f) (k d : Nat) :
    Shifts k shape (chars (f d)) (chars (f (k + d))) := by
  -- All depths at once: the inner lines of a construct are one level deeper.
  induction h generalizing d with
  | empty => exact .of_lineFeed_notMem (by simp)
  | text hs =>
    simp only [chars_text]
    exact .of_lineFeed_notMem hs
  | word hs hne =>
    simp only [chars_text]
    exact ⟨.of_lineFeed_notMem hs, by simpa using hne⟩
  | weaken hf ih => exact (ih d).1
  | append hf hg ihf ihg =>
    simp only [chars_append]
    exact (ihf d).append (ihg d)
  | before hf hg ihf ihg =>
    simp only [chars_append]
    exact ⟨(ihf d).1.append (ihg d), by simp [(ihf d).2]⟩
  | behind hf hg ihf ihg =>
    simp only [chars_append]
    exact ⟨(ihf d).append (ihg d).1, by simp [(ihg d).2]⟩
  | @group a b g hab hne hf ih =>
    -- What is around an empty text has no line feed either.
    have hends : '\n' ∉ (a ++ "" ++ b).toList := hab "" (by decide)
    simp only [String.toList_append, List.mem_append, not_or] at hends
    obtain ⟨⟨ha, -⟩, hb⟩ := hends
    simp only [chars_append, chars_text]
    exact ⟨((PieceShift.of_lineFeed_notMem ha).append (ih d)).append (.of_lineFeed_notMem hb),
      by simp [hne]⟩
  | braced hf ih =>
    have hopen : PieceShift (marginText k).toList "\x7b".toList "\x7b".toList :=
      .of_lineFeed_notMem (by decide)
    have hclose : PieceShift (marginText k).toList "\x7d".toList "\x7d".toList :=
      .of_lineFeed_notMem (by decide)
    have hall := hopen.across (by simp) (ih (d + 1)) (hclose.behindMargin d) (by simp)
    simp only [Layout.braced, chars_append, List.cons_append, chars_cons_text, chars_cons_newline,
      chars_cons_margin, chars_nil, marginText_add, List.append_nil, List.append_assoc]
    exact ⟨hall, by simp⟩
  | newLine hf hg ihf ihg =>
    obtain ⟨hfirst, hne⟩ := ihf d
    obtain ⟨hsecond, hne'⟩ := ihg d
    have hall := hfirst.across hne .nil (hsecond.behindMargin d) (by simp [hne'])
    simp only [chars_append, chars_cons_newline, chars_cons_margin, marginText_add,
      List.append_assoc]
    exact ⟨hall, by simp⟩
  | innerLine hf hg ihf ihg =>
    obtain ⟨hfirst, hne⟩ := ihf d
    obtain ⟨hsecond, hne'⟩ := ihg (d + 1)
    have hall := hfirst.across hne .nil (hsecond.behindMargin (d + 1)) (by simp [hne'])
    simp only [chars_append, chars_cons_newline, chars_cons_margin, Nat.add_assoc, marginText_add k,
      List.append_assoc]
    exact ⟨hall, by simp⟩
  | none => exact .nil
  | blank =>
    simp only [chars_cons_newline, chars_nil]
    exact .blank
  | line hf ih =>
    obtain ⟨hpiece, hne⟩ := ih d
    have hall := (hpiece.behindMargin d).line (by simp [hne])
    simp only [Layout.line, List.cons_append, chars_cons_margin, chars_append, chars_cons_newline,
      chars_nil, marginText_add]
    simp only [List.append_assoc] at hall ⊢
    exact hall
  | stack hf hg ihf ihg =>
    simp only [chars_append]
    exact (ihf d).append (ihg d)
  | deeper hf ih => exact ih (d + 1)

end Layout

theorem Literal.lineFeed_notMem_text (v : Literal) : '\n' ∉ v.text.toList :=
  stable_lineFeed_notMem.literal (fun s _ => lineFeed_notMem_quoted s)
    fun c _ => lineFeed_notMem_quotedChar c

/-- Printed `k` levels deeper, a member has four spaces more for each level in front of every line
    that is not empty, and differs in nothing else.  No text of the tree may have a line feed in it;
    literals may, as they are printed with escapes. -/
theorem Member.render_layout_add (m : Member)
    (h : ∀ q, (Part.member m).Holds q → ∀ t ∈ q.texts, '\n' ∉ t.toList) (k d : Nat) :
    (m.layout (k + d)).render = Text.indentLines (4 * k) (m.layout d).render := by
  have hadmits : ∀ q, (Part.member m).Holds q → q.Admits fun s => '\n' ∉ s.toList :=
    fun q hq => ⟨h q hq, fun v _ => v.lineFeed_notMem_text⟩
  have hformed : Layout.Formed (fun s => '\n' ∉ s.toList) .lines fun d => m.layout d :=
    Part.formed stable_lineFeed_notMem _ hadmits
  have hshift : Layout.LinesShift (marginText k).toList (m.layout d).render.toList
      (m.layout (k + d)).render.toList := hformed.shifts k d
  rw [← String.toList_inj, toList_indentLines, hshift.shifted, toList_marginText]

/-- A class with a method that switches, runs a lambda, and has a branch without braces. -/
def Member.sender : Member :=
  let send := Stmt.eval (.unresolvedCall none "send" [.literal (.string "one\ntwo")])
  let task := Stmt.eval (.unresolvedCall none "run" [.function ["x"] (.block [send, .leave none])])
  .nested ⟨[], .class, "Sender", "Sender", none, [], [
    .initializer true [] {},
    .method ⟨[], [], "void", "start", [], [], some [
      .switch (.plainName "mode") [
        .colon [.literal (.char '\n')] [.ifElse (.plainName "ready") send none],
        .single [] task]], none, {}⟩], {}⟩

theorem Member.sender_render_layout_add :
    (∀ q, (Part.member sender).Holds q → ∀ t ∈ q.texts, '\n' ∉ t.toList) ∧
    (sender.layout 2).render = Text.indentLines 8 (sender.layout 0).render := by
  have htexts : ∀ q, (Part.member sender).Holds q → ∀ t ∈ q.texts, '\n' ∉ t.toList := by
    refine Part.forall_holds_of_level 9 rfl ?_
    decide
  exact ⟨htexts, sender.render_layout_add htexts 2 0⟩

end Receiverless
