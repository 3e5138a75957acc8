/-
  Receiverless/Proofs/SignatureTexts.lean
  =======================================
  **The text of a method signature names one method.**  The owner ends at the first
  curly bracket, the name and the result each at the equals sign behind the word that
  follows them.  The parameter types stand between commas, and types have commas in
  them as well; but those lie inside of angle brackets, so a type ends at the first
  comma outside of all brackets (`Text.read_types`).

  Signatures with the same text are therefore equal (`MethodSig.text_eq_text_iff`), and
  overloads of a method have different texts.
-/
import Receiverless.Proofs.Reading
import Receiverless.Tree.Signatures

namespace Receiverless

/-! ### Types in a list -/

namespace Text

/-- Read one character of a type inside of `depth` angle brackets.  Outside of all brackets there is
    none to close, and no comma. -/
def readAngle (depth : Nat) (c : Char) : Option Nat :=
  if c = '<' then some (depth + 1)
  else
    match depth with
    | 0 => if c = '>' ∨ c = ',' then none else some 0
    | outer + 1 => if c = '>' then some outer else some (outer + 1)

/-- The text is not empty, its angle brackets are nested, and it has commas only inside of them. -/
def IsTypeText (s : String) : Prop := s ≠ "" ∧ s.toList.foldlM readAngle 0 = some 0

instance : DecidablePred IsTypeText := fun s =>
  inferInstanceAs (Decidable (s ≠ "" ∧ s.toList.foldlM readAngle 0 = some 0))

example : IsTypeText "Map<K,List<V>>" ∧ ¬ IsTypeText "K,V" ∧ ¬ IsTypeText "Map<K" ∧
    ¬ IsTypeText "V>" ∧ ¬ IsTypeText "A<B>,C<D>" ∧ ¬ IsTypeText "" := by
  decide

/-- What stands behind the first type of a list: the other ones, each behind a comma. -/
def moreTypes (types : List String) : List Char := types.flatMap fun s => ',' :: s.toList

theorem toList_types (s : String) (types : List String) :
    (",".intercalate (s :: types)).toList = s.toList ++ moreTypes types := by
  induction types generalizing s with
  | nil => simp [moreTypes]
  | cons s' types ih =>
    rw [String.intercalate_cons_cons, String.toList_append, ih s']
    simp [moreTypes]

theorem readAngle_moreTypes (types : List String) :
    ∀ c ∈ (moreTypes types).head?, readAngle 0 c = none := by
  intro c hc
  rcases types with _ | ⟨s, types⟩
  · cases hc
  · obtain rfl : ',' = c := Option.some.inj hc
    rfl

/-- The first type ends where the others begin. -/
theorem read_first_type {s s' : String} (hs : IsTypeText s) (hs' : IsTypeText s')
    {types types' : List String} (h : s.toList ++ moreTypes types = s'.toList ++ moreTypes types') :
    s = s' ∧ moreTypes types = moreTypes types' := by
  obtain ⟨hfirst, hmore⟩ := foldlM_cut hs.2 hs'.2 (readAngle_moreTypes types)
    (readAngle_moreTypes types') h
  exact ⟨String.toList_inj.mp hfirst, hmore⟩

theorem read_moreTypes {types types' : List String} (htypes : ∀ s ∈ types, IsTypeText s)
    (htypes' : ∀ s ∈ types', IsTypeText s) (h : moreTypes types = moreTypes types') :
    types = types' := by
  induction types generalizing types' with
  | nil =>
    rcases types' with _ | ⟨s', types'⟩
    · rfl
    · cases h
  | cons s types ih =>
    rcases types' with _ | ⟨s', types'⟩
    · cases h
    · obtain ⟨hs, hrest⟩ := List.forall_mem_cons.mp htypes
      obtain ⟨hs', hrest'⟩ := List.forall_mem_cons.mp htypes'
      obtain ⟨rfl, hmore⟩ := read_first_type hs hs' (List.cons.inj h).2
      rw [ih hrest hrest' hmore]

theorem toList_types_ne_nil {s : String} (hs : IsTypeText s) (types : List String) :
    (",".intercalate (s :: types)).toList ≠ [] := by
  rw [toList_types]
  intro h
  have hempty : s.toList = [] := (List.append_eq_nil_iff.mp h).1
  exact hs.1 (String.toList_eq_nil_iff.mp hempty)

/-- A list of types can be read from its text. -/
theorem read_types {types types' : List String} (htypes : ∀ s ∈ types, IsTypeText s)
    (htypes' : ∀ s ∈ types', IsTypeText s)
    (h : (",".intercalate types).toList = (",".intercalate types').toList) : types = types' := by
  -- No list but the empty one has the empty text, as no type is empty.
  rcases types with _ | ⟨s, types⟩
  · rcases types' with _ | ⟨s', types'⟩
    · rfl
    · exact absurd h.symm (toList_types_ne_nil (htypes' s' List.mem_cons_self) types')
  · obtain ⟨hs, hrest⟩ := List.forall_mem_cons.mp htypes
    rcases types' with _ | ⟨s', types'⟩
    · exact absurd h (toList_types_ne_nil hs types)
    · obtain ⟨hs', hrest'⟩ := List.forall_mem_cons.mp htypes'
      rw [toList_types, toList_types] at h
      obtain ⟨rfl, hmore⟩ := read_first_type hs hs' h
      rw [read_moreTypes hrest hrest' hmore]

end Text

/-! ### Signatures -/

namespace MethodSig

/-- The texts do not hide the marks that end them: a curly bracket ends the owner, an equals sign
    the name and the result, and a comma outside of brackets a parameter type. -/
structure Legible (s : MethodSig) : Prop where
  owner : '\x7b' ∉ s.owner.toList
  name : '=' ∉ s.name.toList
  result : '=' ∉ s.result.toList
  params : ∀ p ∈ s.params, Text.IsTypeText p

/-- The text, cut at the first curly bracket and at the equals signs. -/
theorem toList_text (s : MethodSig) :
    s.text.toList =
      s.owner.toList ++ '\x7b' :: ("name".toList ++ '=' ::
        (s.name.toList ++ ",return".toList ++ '=' ::
          (s.result.toList ++ ",parameters".toList ++ '=' ::
            '[' :: ((",".intercalate s.params).toList ++ "]\x7d".toList)))) := by
  simp [text]

/-- A text without an equals sign, in front of a word and an equals sign. -/
theorem read_word {a a' word : String} {r r' : List Char} (ha : '=' ∉ a.toList)
    (ha' : '=' ∉ a'.toList) (hword : '=' ∉ word.toList)
    (h : a.toList ++ word.toList ++ '=' :: r = a'.toList ++ word.toList ++ '=' :: r') :
    a = a' ∧ r = r' := by
  have hnone : ∀ b : String, '=' ∉ b.toList → '=' ∉ b.toList ++ word.toList := by
    intro b hb hmem
    exact (List.mem_append.mp hmem).elim hb hword
  obtain ⟨hfront, hrest⟩ := append_cut_at (hnone a ha) (hnone a' ha') h
  exact ⟨String.toList_inj.mp (List.append_cancel_right hfront), hrest⟩

/-- Signatures with the same text are the same. -/
theorem text_eq_text_iff {a b : MethodSig} (ha : a.Legible) (hb : b.Legible) :
    a.text = b.text ↔ a = b := by
  constructor
  · intro h
    have hchars := congrArg String.toList h
    rw [toList_text, toList_text] at hchars
    obtain ⟨howner, hchars⟩ := append_cut_at ha.owner hb.owner hchars
    have hbehind := (List.cons.inj (List.append_cancel_left hchars)).2
    obtain ⟨hname, hchars⟩ := read_word ha.name hb.name (by decide) hbehind
    obtain ⟨hresult, hchars⟩ := read_word ha.result hb.result (by decide) hchars
    have hlist := List.append_cancel_right (List.cons.inj hchars).2
    have hparams := Text.read_types ha.params hb.params hlist
    cases a
    cases b
    rw [MethodSig.mk.injEq]
    exact ⟨String.toList_inj.mp howner, hname, hparams, hresult⟩
  · rintro rfl
    rfl

/-- `void put(Map<K,List<V>>, int)` -/
def putMap : MethodSig := ⟨"shop.Cart", "put", ["Map<K,List<V>>", "int"], "void"⟩

/-- `void put(Map<K,List<V>,int>)` -/
def putTable : MethodSig := ⟨"shop.Cart", "put", ["Map<K,List<V>,int>"], "void"⟩

theorem put_overloads_text :
    putMap.Legible ∧ putTable.Legible ∧ (putMap.text = putTable.text ↔ putMap = putTable) ∧
      putMap.text ≠ putTable.text := by
  have hmap : putMap.Legible := ⟨by decide, by decide, by decide, by decide⟩
  have htable : putTable.Legible := ⟨by decide, by decide, by decide, by decide⟩
  have hiff := text_eq_text_iff hmap htable
  exact ⟨hmap, htable, hiff, fun h => absurd (hiff.mp h) (by decide)⟩

/-- A type that is cut at a comma inside of its brackets has the text of the whole type. -/
example : (MethodSig.mk "A" "f" ["Map<K", "V>"] "void").text =
    (MethodSig.mk "A" "f" ["Map<K,V>"] "void").text := by
  decide

end MethodSig

end Receiverless
