/-
  Receiverless/Proofs/Reading.lean
  ================================
  **Reading a text in one way.**  To say that a text tells what it was made from,
  one shows where each of its pieces ends: a piece with more text behind it is not
  also another piece with other text behind it.  What is read from state to state ends
  where the state cannot go on (`foldlM_cut`): a run of characters where its class is
  left, a number where the digits end.  A text in quotes ends at the first quote that
  is not part of an escape.
-/
import Mathlib.Data.List.Basic

namespace Receiverless

/-- A text that is read character by character is cut in one way if neither of the states that are
    reached can go on with what follows. -/
theorem foldlM_cut {σ : Type} {step : σ → Char → Option σ} {s f f' : σ} {a a' r r' : List Char}
    (ha : a.foldlM step s = some f) (ha' : a'.foldlM step s = some f')
    (hr : ∀ c ∈ r.head?, step f c = none) (hr' : ∀ c ∈ r'.head?, step f' c = none)
    (h : a ++ r = a' ++ r') : a = a' ∧ r = r' := by
  -- While both pieces go on they are in the same state; the one that ends first stops the other.
  induction a generalizing a' s with
  | nil =>
    rw [List.nil_append] at h
    obtain rfl : s = f := Option.some.inj ha
    cases a' with
    | nil => exact ⟨rfl, h⟩
    | cons c cs =>
      rw [List.foldlM_cons, hr c (by simp [h])] at ha'
      cases ha'
  | cons c cs ih =>
    rw [List.foldlM_cons] at ha
    obtain ⟨next, hnext, hcs⟩ := Option.bind_eq_some_iff.mp ha
    cases a' with
    | nil =>
      rw [List.nil_append] at h
      obtain rfl : s = f' := Option.some.inj ha'
      rw [hr' c (by simp [← h])] at hnext
      cases hnext
    | cons c' cs' =>
      obtain ⟨rfl, htail⟩ := List.cons.inj h
      rw [List.foldlM_cons, hnext] at ha'
      obtain ⟨rfl, hrest⟩ := ih hcs ha' htail
      exact ⟨rfl, hrest⟩

/-- A text is cut in one way where its characters leave a class. -/
theorem append_cut {p : Char → Bool} {a a' r r' : List Char} (ha : ∀ c ∈ a, p c = true)
    (ha' : ∀ c ∈ a', p c = true) (hr : ∀ c ∈ r.head?, p c = false)
    (hr' : ∀ c ∈ r'.head?, p c = false) (h : a ++ r = a' ++ r') : a = a' ∧ r = r' := by
  have hread : ∀ b : List Char, (∀ c ∈ b, p c = true) →
      b.foldlM (fun _ c => if p c then some () else none) () = some () := by
    intro b hb
    induction b with
    | nil => rfl
    | cons c cs ih =>
      obtain ⟨hc, hcs⟩ := List.forall_mem_cons.mp hb
      rw [List.foldlM_cons, if_pos hc]
      exact ih hcs
  exact foldlM_cut (hread a ha) (hread a' ha') (fun c hc => by simp [hr c hc])
    (fun c hc => by simp [hr' c hc]) h

/-- A text is cut in one way at the first place of a character. -/
theorem append_cut_at {c : Char} {a a' r r' : List Char} (ha : c ∉ a) (ha' : c ∉ a')
    (h : a ++ c :: r = a' ++ c :: r') : a = a' ∧ r = r' := by
  have hother : ∀ b : List Char, c ∉ b → ∀ x ∈ b, (x != c) = true := by
    intro b hb x hx
    rw [bne_iff_ne]
    rintro rfl
    exact hb hx
  obtain ⟨heq, hrest⟩ := append_cut (hother a ha) (hother a' ha') (by simp) (by simp) h
  exact ⟨heq, (List.cons.inj hrest).2⟩

/-! ### Numbers -/

namespace Text

/-- Nothing that could go on a number stands at the start. -/
def NoDigit (r : List Char) : Prop := ∀ c ∈ r.head?, c.isDigit = false

theorem noDigit_cons {c : Char} (h : c.isDigit = false) (r : List Char) : NoDigit (c :: r) := by
  intro c' hc'
  rw [← Option.some.inj hc', h]

theorem isDigit_of_mem_toString {n : Nat} {c : Char} (h : c ∈ (toString n).toList) :
    c.isDigit = true := by
  rw [Nat.toString_eq_repr, Nat.toList_repr] at h
  exact Nat.isDigit_of_mem_toDigits (by decide) (by decide) h

theorem eq_of_toString_eq {m n : Nat} (h : (toString m).toList = (toString n).toList) : m = n := by
  rw [Nat.toString_eq_repr, Nat.toString_eq_repr, Nat.toList_repr, Nat.toList_repr] at h
  have hvalue := congrArg (fun digits => Nat.ofDigitChars 10 digits 0) h
  simpa using hvalue

theorem read_natural {m n : Nat} {r t : List Char} (hr : NoDigit r) (ht : NoDigit t)
    (h : (toString m).toList ++ r = (toString n).toList ++ t) : m = n ∧ r = t := by
  obtain ⟨hdigits, hrest⟩ := append_cut (p := Char.isDigit) (fun _ hc => isDigit_of_mem_toString hc)
    (fun _ hc => isDigit_of_mem_toString hc) hr ht h
  exact ⟨eq_of_toString_eq hdigits, hrest⟩

/-- A number starts with a digit. -/
theorem head_natural (n : Nat) : ∃ c cs, (toString n).toList = c :: cs ∧ c.isDigit = true := by
  rcases hn : (toString n).toList with _ | ⟨c, cs⟩
  · rw [Nat.toString_eq_repr, Nat.toList_repr] at hn
    exact absurd hn Nat.toDigits_ne_nil
  · exact ⟨c, cs, rfl, isDigit_of_mem_toString (n := n) (by rw [hn]; exact List.mem_cons_self)⟩

theorem minus_ne_natural (n : Nat) (r t : List Char) : '-' :: r ≠ (toString n).toList ++ t := by
  obtain ⟨c, cs, hn, hc⟩ := head_natural n
  rw [hn]
  intro h
  rw [← (List.cons.inj h).1] at hc
  cases hc

theorem toList_negSucc (n : Nat) :
    (toString (Int.negSucc n)).toList = '-' :: (toString (n + 1)).toList :=
  String.toList_append

theorem read_integer {m n : Int} {r t : List Char} (hr : NoDigit r) (ht : NoDigit t)
    (h : (toString m).toList ++ r = (toString n).toList ++ t) : m = n ∧ r = t := by
  rcases m with m | m <;> rcases n with n | n
  · obtain ⟨rfl, hrest⟩ := read_natural hr ht h
    exact ⟨rfl, hrest⟩
  · rw [toList_negSucc] at h
    exact absurd h.symm (minus_ne_natural m _ r)
  · rw [toList_negSucc] at h
    exact absurd h (minus_ne_natural n _ t)
  · rw [toList_negSucc, toList_negSucc] at h
    obtain ⟨hsucc, hrest⟩ := read_natural hr ht (List.cons.inj h).2
    obtain rfl : m = n := by omega
    exact ⟨rfl, hrest⟩

/-! ### Texts in quotes -/

/-- A way to write characters between quotes: what is written for one character has an end, and it
    does not start with the quote. -/
structure Escaping (quote : Char) (escape : Char → List Char) : Prop where
  read {c d : Char} {r t : List Char} : escape c ++ r = escape d ++ t → c = d ∧ r = t
  inside {c : Char} {r t : List Char} : escape c ++ r ≠ quote :: t

/-- It is enough that each character can be read back and that the quote is escaped. -/
theorem Escaping.of_read {quote : Char} {escape : Char → List Char}
    {read : List Char → Option (Char × List Char)}
    (hread : ∀ c r, read (escape c ++ r) = some (c, r))
    (hquote : ∀ t, read (quote :: t) = some (quote, t)) (hescaped : escape quote ≠ [quote]) :
    Escaping quote escape where
  read {c d r t} h := by
    have hback := hread c r
    rw [h, hread] at hback
    cases hback
    exact ⟨rfl, rfl⟩
  inside {c r t} h := by
    have hback := hread c r
    rw [h, hquote] at hback
    cases hback
    have hsame : escape quote ++ r = [quote] ++ r := h
    exact hescaped (List.append_cancel_right hsame)

/-- A text between quotes ends at the first quote that stands for itself. -/
theorem Escaping.read_quoted {quote : Char} {escape : Char → List Char}
    (h : Escaping quote escape) {s s' r r' : List Char}
    (heq : s.flatMap escape ++ quote :: r = s'.flatMap escape ++ quote :: r') :
    s = s' ∧ r = r' := by
  induction s generalizing s' with
  | nil =>
    rcases s' with _ | ⟨c', cs'⟩
    · exact ⟨rfl, (List.cons.inj heq).2⟩
    · rw [List.flatMap_cons, List.append_assoc] at heq
      exact absurd heq.symm h.inside
  | cons c cs ih =>
    rcases s' with _ | ⟨c', cs'⟩
    · rw [List.flatMap_cons, List.append_assoc] at heq
      exact absurd heq h.inside
    · rw [List.flatMap_cons, List.flatMap_cons, List.append_assoc, List.append_assoc] at heq
      obtain ⟨rfl, hrest⟩ := h.read heq
      obtain ⟨rfl, hend⟩ := ih hrest
      exact ⟨rfl, hend⟩

theorem Escaping.read_text {quote : Char} {escape : Char → List Char} (h : Escaping quote escape)
    {a b : String} {r t : List Char}
    (heq : (String.ofList (quote :: a.toList.flatMap escape ++ [quote])).toList ++ r =
      (String.ofList (quote :: b.toList.flatMap escape ++ [quote])).toList ++ t) :
    a = b ∧ r = t := by
  simp only [String.toList_ofList, List.cons_append, List.append_assoc, List.nil_append] at heq
  obtain ⟨hchars, hrest⟩ := h.read_quoted (List.cons.inj heq).2
  exact ⟨String.toList_inj.mp hchars, hrest⟩

end Text

end Receiverless
