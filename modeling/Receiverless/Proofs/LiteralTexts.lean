/-
  Receiverless/Proofs/LiteralTexts.lean
  =====================================
  **The characters of literals.**  The text of a number has digits, a point, signs
  and letters in it, so it is allowed wherever plain texts are.  What a quoted string
  or character shows is what it holds, with some characters behind a backslash and a
  line feed spelled out, so that none stands between the quotes.

  One reader takes back the escapes of both sorts of quotes, so a printed string or
  character ends at its closing quote, whatever follows, and no other one has its
  text (`Expr.render_quoted_append_inj`).
-/
import Receiverless.Proofs.LayoutForms
import Receiverless.Proofs.Reading

namespace Receiverless

namespace Text

theorem isPlain_of_isDigit {c : Char} (h : c.isDigit = true) : isPlain c = true := by
  by_contra hplain
  simp only [isPlain, Bool.not_eq_true, Bool.not_eq_false', List.contains_iff_mem, List.mem_cons,
    List.not_mem_nil, or_false] at hplain
  -- None of the characters that are not plain is a digit.
  rcases hplain with rfl | rfl | rfl | rfl | rfl | rfl | rfl | rfl <;> cases h

theorem plain_natural (n : Nat) : ∀ c ∈ (toString n).toList, isPlain c = true :=
  fun _ hc => isPlain_of_isDigit (isDigit_of_mem_toString hc)

namespace Stable

variable {P : String → Prop}

theorem natural (hP : Stable P) (n : Nat) : P (toString n) :=
  hP.plain (List.all_eq_true.mpr (plain_natural n))

/-- Any selection of the digits of a number. -/
theorem digits (hP : Stable P) {n : Nat} {cs : List Char} (h : cs ⊆ (toString n).toList) :
    P (String.ofList cs) := by
  refine hP.plain (List.all_eq_true.mpr fun c hc => ?_)
  rw [String.toList_ofList] at hc
  exact plain_natural n c (h hc)

theorem integer (hP : Stable P) (n : Int) : P (toString n) := by
  cases n with
  | ofNat n => exact hP.natural n
  | negSucc n => exact hP.append (hP.plain (by decide)) (hP.natural (n + 1))

theorem zeros (hP : Stable P) (n : Nat) : P (Decimal.zeros n) := by
  refine hP.plain (List.all_eq_true.mpr fun c hc => ?_)
  rw [Decimal.zeros, String.toList_ofList] at hc
  rw [List.eq_of_mem_replicate hc]
  decide

theorem positional (hP : Stable P) (d : Decimal.Numeral) : P d.positionalText := by
  unfold Decimal.Numeral.positionalText
  split
  · exact hP.append (hP.append (hP.natural _) (hP.zeros _)) (hP.plain (by decide))
  · dsimp only
    split
    · exact hP.append (hP.append (hP.plain (by decide)) (hP.zeros _)) (hP.natural _)
    · have hwhole (k : Nat) := hP.digits (List.take_subset k (toString d.coefficient).toList)
      have hplaces (k : Nat) := hP.digits (List.drop_subset k (toString d.coefficient).toList)
      exact hP.append (hP.append (hwhole _) (hP.plain (by decide))) (hplaces _)

theorem scientific (hP : Stable P) (plusSign : Bool) (d : Decimal.Numeral) :
    P (d.scientificText plusSign) := by
  unfold Decimal.Numeral.scientificText
  split
  · exact hP.plain (by decide)
  · rename_i c cs heq
    have hone : [c] ⊆ (toString d.coefficient).toList := by
      rw [heq]
      simp
    have hothers : cs ⊆ (toString d.coefficient).toList := by
      rw [heq]
      exact List.subset_cons_self c cs
    have hfirst : P (String.ofList [c]) := hP.digits hone
    have hpoint : P (if cs.isEmpty then "" else ".") := hP.either (by decide) (by decide)
    have hplus : P (if plusSign && 0 ≤ d.magnitude then "+" else "") :=
      hP.either (by decide) (by decide)
    have hmantissa := hP.append (hP.append hfirst hpoint) (hP.digits hothers)
    have hmark := hP.append hmantissa (hP.plain (s := "e") (by decide))
    exact hP.append (hP.append hmark hplus) (hP.integer _)

theorem decimal (hP : Stable P) (f : Decimal.Format) (x : Binary64) : P (f.text x) := by
  have hsign : P (if x.negative then "-" else "") := hP.either (by decide) (by decide)
  unfold Decimal.Format.text
  split
  · exact hP.plain (by decide)
  · dsimp only
    split
    · exact hP.append hsign (hP.plain (by decide))
    · split
      · exact hP.append hsign (hP.plain (by decide))
      · refine hP.append hsign ?_
        split
        · exact hP.positional _
        · exact hP.scientific _ _

/-- Only the texts in quotes depend on what a literal holds. -/
theorem literal (hP : Stable P) {v : Literal} (hstring : ∀ s, v = .string s → P (Literal.quoted s))
    (hchar : ∀ c, v = .char c → P (Literal.quotedChar c)) : P v.text := by
  cases v with
  | int n => exact hP.integer n
  | long n => exact hP.append (hP.integer n) (hP.plain (by decide))
  | float x => exact hP.append (hP.decimal _ x) (hP.plain (by decide))
  | double x => exact hP.decimal _ x
  | string s => exact hstring s rfl
  | char c => exact hchar c rfl
  | bool b =>
    cases b
    · exact hP.plain (by decide)
    · exact hP.plain (by decide)
  | null => exact hP.plain (by decide)

end Stable

end Text

namespace Literal

/-- The texts that a literal holds. -/
def contents : Literal → List String
  | .string s => [s]
  | .char c => [String.ofList [c]]
  | _ => []

theorem lineFeed_notMem_escapeInString (c : Char) : '\n' ∉ escapeInString c := by
  unfold escapeInString
  split
  · decide
  · decide
  · decide
  · decide
  · rename_i hfeed _
    intro hmem
    exact hfeed (List.mem_singleton.mp hmem).symm

theorem lineFeed_notMem_escapeInChar (c : Char) : '\n' ∉ escapeInChar c := by
  unfold escapeInChar
  split
  · decide
  · decide
  · decide
  · rename_i hfeed
    intro hmem
    exact hfeed (List.mem_singleton.mp hmem).symm

theorem lineFeed_notMem_quoted (s : String) : '\n' ∉ (quoted s).toList := by
  simp only [quoted, String.toList_ofList, List.mem_append, List.mem_cons, List.mem_flatMap]
  rintro ((hquote | ⟨c, -, hc⟩) | hend)
  · exact absurd hquote (by decide)
  · exact lineFeed_notMem_escapeInString c hc
  · simp at hend

theorem lineFeed_notMem_quotedChar (c : Char) : '\n' ∉ (quotedChar c).toList := by
  simp only [quotedChar, String.toList_ofList, List.mem_append, List.mem_cons]
  rintro ((hquote | hc) | hend)
  · exact absurd hquote (by decide)
  · exact lineFeed_notMem_escapeInChar c hc
  · simp at hend

/-! ### Reading literals back -/

/-- The character that a letter behind a backslash stands for. -/
def unescaped : Char → Char
  | 'n' => '\n'
  | 't' => '\t'
  | c => c

/-- Read one character of a string or a character literal, escaped or not.  The escapes of both go
    back to the same letters. -/
def readChar : List Char → Option (Char × List Char)
  | '\\' :: c :: r => some (unescaped c, r)
  | c :: r => some (c, r)
  | [] => none

theorem readChar_of_ne {c : Char} (h : c ≠ '\\') (r : List Char) :
    readChar (c :: r) = some (c, r) := by
  simp [readChar, h]

theorem readChar_escapeInString (c : Char) (r : List Char) :
    readChar (escapeInString c ++ r) = some (c, r) := by
  unfold escapeInString
  split
  · rfl
  · rfl
  · rfl
  · rfl
  · rename_i hslash _ _
    exact readChar_of_ne hslash r

theorem readChar_escapeInChar (c : Char) (r : List Char) :
    readChar (escapeInChar c ++ r) = some (c, r) := by
  unfold escapeInChar
  split
  · rfl
  · rfl
  · rfl
  · rename_i hslash _
    exact readChar_of_ne hslash r

theorem escaping_string : Text.Escaping '"' escapeInString :=
  .of_read readChar_escapeInString (fun _ => rfl) (by decide)

theorem escaping_char : Text.Escaping '\'' escapeInChar :=
  .of_read readChar_escapeInChar (fun _ => rfl) (by decide)

theorem read_quoted {a b r t : String} (h : quoted a ++ r = quoted b ++ t) : a = b ∧ r = t := by
  have hchars := congrArg String.toList h
  rw [String.toList_append, String.toList_append] at hchars
  obtain ⟨hvalue, hrest⟩ := escaping_string.read_text hchars
  exact ⟨hvalue, String.toList_inj.mp hrest⟩

theorem read_quotedChar {a b : Char} {r t : String} (h : quotedChar a ++ r = quotedChar b ++ t) :
    a = b ∧ r = t := by
  have hchars := congrArg String.toList h
  simp only [quotedChar, String.toList_append, String.toList_ofList, List.cons_append,
    List.append_assoc, List.nil_append] at hchars
  obtain ⟨hvalue, hrest⟩ := escaping_char.read (List.cons.inj hchars).2
  exact ⟨hvalue, String.toList_inj.mp (List.cons.inj hrest).2⟩

end Literal

theorem Expr.render_literal (v : Literal) (d : Nat) :
    ((Expr.literal v).layout d).render = v.text := by
  rw [layout, Layout.render_text]

/-- A printed string or character ends at its closing quote and tells what it holds, whatever
    follows it. -/
theorem Expr.render_quoted_append_inj (d e : Nat) (r t : String) :
    (∀ a b : String,
      ((Expr.literal (.string a)).layout d).render ++ r =
        ((Expr.literal (.string b)).layout e).render ++ t ↔ a = b ∧ r = t) ∧
    ∀ a b : Char,
      ((Expr.literal (.char a)).layout d).render ++ r =
        ((Expr.literal (.char b)).layout e).render ++ t ↔ a = b ∧ r = t := by
  simp only [render_literal, Literal.text]
  constructor
  · intro a b
    constructor
    · exact Literal.read_quoted
    · rintro ⟨rfl, rfl⟩
      rfl
  · intro a b
    constructor
    · exact Literal.read_quotedChar
    · rintro ⟨rfl, rfl⟩
      rfl

/-- Text that looks escaped, and quotes that do not end the literal. -/
example :
    Literal.quoted "a\\\"b" = "\"a\\\\\\\"b\"" ∧ Literal.quoted "\\n" ≠ Literal.quoted "\n" ∧
      Literal.quotedChar '\'' = "'\\''" := by
  decide

end Receiverless
