/-
  Receiverless/Proofs/ConstructorNames.lean
  =========================================
  **Constructors are named after the type of their class.**  A constructor draft has no
  name.  It is declared under the last segment of the type of its class, behind the last
  dot or dollar sign.  That type is given to the class, or by default it is made of the
  names of the classes around it and its own.

  At every depth of a declared tree the last segment is the simple name of the class
  exactly if the type is the default or is given and ends in that name, as a segment of
  its own (`ClassDraft.declare_constructor_names`).  In the binary name of a local class a
  number stands in front of the simple name, and the constructor takes it along
  (`ClassDraft.stall_constructor_misnamed`).
-/
import Mathlib.Data.List.DropRight
import Receiverless.Proofs.DraftScripts

namespace Receiverless

/-! ### Last segments -/

/-- No dot and no dollar sign divides the text. -/
def IsSegment (s : String) : Prop := '.' ∉ s.toList ∧ '$' ∉ s.toList

instance : DecidablePred IsSegment := fun s =>
  inferInstanceAs (Decidable ('.' ∉ s.toList ∧ '$' ∉ s.toList))

/-- The text is the given one, or has it behind a dot or a dollar sign. -/
def EndsInSegment (s text : String) : Prop :=
  text = s ∨ ∃ outer, text = outer ++ "." ++ s ∨ text = outer ++ "$" ++ s

/-- The characters inside of a segment. -/
def isSegmentChar (c : Char) : Bool := c != '.' && c != '$'

theorem eq_of_not_isSegmentChar {c : Char} (h : ¬ isSegmentChar c = true) : c = '.' ∨ c = '$' := by
  by_cases hdot : c = '.'
  · exact Or.inl hdot
  · right
    simpa [isSegmentChar, hdot] using h

theorem isSegment_iff {s : String} : IsSegment s ↔ ∀ c ∈ s.toList, isSegmentChar c = true := by
  constructor
  · intro h c hc
    by_contra hchar
    rcases eq_of_not_isSegmentChar hchar with rfl | rfl
    · exact h.1 hc
    · exact h.2 hc
  · intro h
    constructor
    · exact fun hdot => absurd (h '.' hdot) (by decide)
    · exact fun hdollar => absurd (h '$' hdollar) (by decide)

theorem toList_lastSegment (text : String) :
    (lastSegment text).toList = text.toList.rtakeWhile isSegmentChar :=
  String.toList_ofList

theorem lastSegment_eq_self {s : String} (hs : IsSegment s) : lastSegment s = s := by
  rw [← String.toList_inj, toList_lastSegment, List.rtakeWhile_eq_self_iff]
  exact isSegment_iff.mp hs

theorem lastSegment_append {outer mark s : String} {c : Char} (hmark : mark.toList = [c])
    (hc : ¬ isSegmentChar c = true) (hs : IsSegment s) : lastSegment (outer ++ mark ++ s) = s := by
  have hinside : ∀ x ∈ s.toList.reverse, isSegmentChar x = true := by
    intro x hx
    exact isSegment_iff.mp hs x (List.mem_reverse.mp hx)
  rw [← String.toList_inj, toList_lastSegment, List.rtakeWhile, String.toList_append,
    String.toList_append, hmark, List.reverse_append, List.reverse_append,
    List.takeWhile_append_of_pos hinside, List.reverse_singleton, List.singleton_append,
    List.takeWhile_cons_of_neg hc, List.append_nil, List.reverse_reverse]

theorem lastSegment_of_endsInSegment {s text : String} (hs : IsSegment s)
    (h : EndsInSegment s text) : lastSegment text = s := by
  rcases h with rfl | ⟨outer, rfl | rfl⟩
  · exact lastSegment_eq_self hs
  · exact lastSegment_append (c := '.') rfl (by decide) hs
  · exact lastSegment_append (c := '$') rfl (by decide) hs

/-- Every text ends in its last segment. -/
theorem endsInSegment_lastSegment (text : String) : EndsInSegment (lastSegment text) text := by
  have hsplit : text.toList =
      text.toList.rdropWhile isSegmentChar ++ (lastSegment text).toList := by
    rw [toList_lastSegment]
    exact List.rdropWhile_append_rtakeWhile.symm
  rcases List.eq_nil_or_concat' (text.toList.rdropWhile isSegmentChar) with
    hnone | ⟨outer, c, hfront⟩
  · rw [hnone, List.nil_append, String.toList_inj] at hsplit
    exact Or.inl hsplit
  · have hlast := List.rdropWhile_last_not isSegmentChar text.toList (by simp [hfront])
    simp only [hfront, List.getLast_append_singleton] at hlast
    rw [hfront] at hsplit
    refine Or.inr ⟨String.ofList outer, ?_⟩
    rcases eq_of_not_isSegmentChar hlast with rfl | rfl
    · left
      rw [← String.toList_inj, hsplit]
      simp
    · right
      rw [← String.toList_inj, hsplit]
      simp

theorem lastSegment_eq_iff {s : String} (hs : IsSegment s) {text : String} :
    lastSegment text = s ↔ EndsInSegment s text := by
  constructor
  · rintro rfl
    exact endsInSegment_lastSegment text
  · exact lastSegment_of_endsInSegment hs

/-- A text of digits. -/
def IsNumber (s : String) : Prop := s ≠ "" ∧ s.toList.all Char.isDigit = true

instance : DecidablePred IsNumber := fun s =>
  inferInstanceAs (Decidable (s ≠ "" ∧ s.toList.all Char.isDigit = true))

theorem isSegmentChar_of_isDigit {c : Char} (h : c.isDigit = true) : isSegmentChar c = true := by
  by_contra hchar
  rcases eq_of_not_isSegmentChar hchar with rfl | rfl <;> cases h

theorem IsNumber.isSegment_append {digits s : String} (hdigits : IsNumber digits)
    (hs : IsSegment s) : IsSegment (digits ++ s) := by
  rw [isSegment_iff]
  intro c hc
  rw [String.toList_append, List.mem_append] at hc
  rcases hc with hdigit | hrest
  · exact isSegmentChar_of_isDigit (List.all_eq_true.mp hdigits.2 c hdigit)
  · exact isSegment_iff.mp hs c hrest

/-! ### Types of drafts -/

namespace ClassDraft

/-- A type under which the draft may be declared: the one that it is given, or else its simple name,
    alone or behind another type. -/
def MayHaveType (d : ClassDraft) (type : String) : Prop :=
  match d.qualified with
  | some given => type = given
  | none => type = d.name ∨ ∃ outer, type = outer ++ "." ++ d.name

theorem mayHaveType_getD {d : ClassDraft} {type : String}
    (h : type = d.name ∨ ∃ outer, type = outer ++ "." ++ d.name) :
    d.MayHaveType (d.qualified.getD type) := by
  unfold MayHaveType
  cases d.qualified with
  | some given => rfl
  | none => exact h

/-- A type that is not given always ends in the simple name. -/
theorem MayHaveType.endsInSegment_iff {d : ClassDraft} {type : String} (h : d.MayHaveType type) :
    EndsInSegment d.name type ↔ ∀ given ∈ d.qualified, EndsInSegment d.name given := by
  unfold MayHaveType at h
  cases hq : d.qualified with
  | some given =>
    rw [hq] at h
    subst h
    simp
  | none =>
    rw [hq] at h
    constructor
    · intro _ given hgiven
      cases hgiven
    · intro _
      rcases h with rfl | ⟨outer, rfl⟩
      · exact Or.inl rfl
      · exact Or.inr ⟨outer, Or.inl rfl⟩

/-- The draft that is reached through nested drafts at the given positions among the members. -/
def nestedAt? (d : ClassDraft) : List Nat → Option ClassDraft
  | [] => some d
  | i :: path =>
    match d.members[i]? with
    | some (.nested inner) => inner.nestedAt? path
    | _ => none

theorem getElem?_declareMembersIn (owner : String) (members : List MemberDraft) (i : Nat) :
    (declareMembersIn owner members)[i]? = members[i]?.map (MemberDraft.declareIn owner) := by
  induction members generalizing i with
  | nil => rfl
  | cons m rest ih =>
    cases i with
    | zero => rfl
    | succ i => simpa [declareMembersIn] using ih i

theorem getElem?_members_declareAs (type : String) (d : ClassDraft) (i : Nat) :
    (d.declareAs type).members[i]? = d.members[i]?.map (MemberDraft.declareIn type) := by
  rw [members_declareAs, getElem?_declareMembersIn]

/-- A nested draft is declared at its own place, under a type that it may have. -/
theorem exists_declared_at {top d : ClassDraft} {path : List Nat} (h : top.nestedAt? path = some d)
    {type : String} (htype : top.MayHaveType type) :
    ∃ t, d.MayHaveType t ∧ (top.declareAs type).nestedAt? path = some (d.declareAs t) := by
  -- One step down, the type of the class around stands in front of the name.
  induction path generalizing top type with
  | nil =>
    obtain rfl : top = d := Option.some.inj h
    exact ⟨type, htype, rfl⟩
  | cons i path ih =>
    rw [nestedAt?] at h
    split at h
    · rename_i inner hmember
      obtain ⟨t, ht, hdeclared⟩ := ih h (mayHaveType_getD (Or.inr ⟨type, rfl⟩))
      refine ⟨t, ht, ?_⟩
      rw [ClassDecl.nestedAt?, getElem?_members_declareAs, hmember]
      exact hdeclared
    · cases h

/-! ### Constructors -/

/-- In every class of a declared tree, a constructor has the simple name of the class exactly if the
    type that the class is given, if any, ends in it.  In a binary name the number is taken
    along. -/
theorem declare_constructor_names {top d : ClassDraft} {path : List Nat}
    (hd : top.nestedAt? path = some d) (hname : IsSegment d.name) :
    ∃ c, top.declare.nestedAt? path = some c ∧ c.name = d.name ∧
      ∀ (i : Nat) (k : ConstructorDraft), d.members[i]? = some (.constructor k) →
        ∃ k' : Constructor, c.members[i]? = some (.constructor k') ∧
          (k'.name = d.name ↔ ∀ type ∈ d.qualified, EndsInSegment d.name type) ∧
          ∀ outer digits, IsNumber digits →
            d.qualified = some (outer ++ "$" ++ digits ++ d.name) → k'.name = digits ++ d.name := by
  obtain ⟨type, htype, hdeclared⟩ := exists_declared_at hd (mayHaveType_getD (Or.inl rfl))
  refine ⟨d.declareAs type, hdeclared, name_declareAs type d, ?_⟩
  intro i k hk
  refine ⟨k.declareIn type, ?_, ?_, ?_⟩
  · rw [getElem?_members_declareAs, hk]
    rfl
  · exact (lastSegment_eq_iff hname).trans htype.endsInSegment_iff
  · intro outer digits hdigits hgiven
    rw [MayHaveType, hgiven] at htype
    have hsegment := hdigits.isSegment_append hname
    rw [String.append_assoc] at htype
    exact (lastSegment_eq_iff hsegment).mpr (Or.inr ⟨outer, Or.inr htype⟩)

/-- `class Stall { Stall() {} }`, which is given a type. -/
def stall (type : String) : ClassDraft :=
  ⟨[], .class, "Stall", some type, none, [], [.constructor {}]⟩

/-- `class Row { Row() {} class Stall { Stall() {} } }` -/
def row : ClassDraft :=
  ⟨[], .class, "Row", none, none, [], [.constructor {}, .nested (stall "Market$1Stall")]⟩

/-- `class Market { class Row { … } }` -/
def market : ClassDraft := ⟨[], .class, "Market", some "town.Market", none, [], [.nested row]⟩

/-- `Row` has its default type, made from that of the class around it, and `Stall` is given a binary
    name. -/
theorem market_constructor_names :
    (market.nestedAt? [0] = some row ∧ IsSegment row.name ∧
      ∃ c, market.declare.nestedAt? [0] = some c ∧
        ∃ k : Constructor, c.members[0]? = some (.constructor k) ∧ k.name = "Row") ∧
    (market.nestedAt? [0, 1] = some (stall "Market$1Stall") ∧ IsSegment "Stall" ∧
      ∃ c, market.declare.nestedAt? [0, 1] = some c ∧
        ∃ k : Constructor, c.members[0]? = some (.constructor k) ∧ k.name = "1Stall") := by
  have hrow : market.nestedAt? [0] = some row := rfl
  have hstall : market.nestedAt? [0, 1] = some (stall "Market$1Stall") := rfl
  refine ⟨⟨hrow, by decide, ?_⟩, ⟨hstall, by decide, ?_⟩⟩
  · obtain ⟨c, hc, -, hconstructors⟩ := declare_constructor_names hrow (by decide)
    obtain ⟨k, hk, hname, -⟩ := hconstructors 0 {} rfl
    exact ⟨c, hc, k, hk, hname.mpr (fun _ h => nomatch h)⟩
  · obtain ⟨c, hc, -, hconstructors⟩ := declare_constructor_names hstall (by decide)
    obtain ⟨k, hk, -, hbinary⟩ := hconstructors 0 {} rfl
    exact ⟨c, hc, k, hk, hbinary "Market" "1" (by decide) rfl⟩

/-! ### Binary names -/

/-- The ways in which a class with a simple name is given its type: not at all, by the simple name
    alone or behind a dot, or by a binary name. -/
inductive TypeSpelling (name : String) : Option String → Prop
  | unstated : TypeSpelling name none
  | simple : TypeSpelling name (some name)
  | dotted (outer : String) : TypeSpelling name (some (outer ++ "." ++ name))
  | binary (outer digits : String) (h : IsNumber digits) :
      TypeSpelling name (some (outer ++ "$" ++ digits ++ name))

/-- In every class of the declared tree with a simple name that begins with a letter, constructors
    have that name, in whichever of these ways the type is given. -/
def NamesConstructors (top : ClassDraft) : Prop :=
  ∀ path d c (i : Nat) (k : ConstructorDraft) (k' : Constructor), top.nestedAt? path = some d →
    top.declare.nestedAt? path = some c → IsSegment d.name →
    d.name.toList.head?.any Char.isAlpha = true → TypeSpelling d.name d.qualified →
    d.members[i]? = some (.constructor k) → c.members[i]? = some (.constructor k') →
    k'.name = d.name

/-- The constructor of a local class is declared as `1Stall() {}`. -/
theorem stall_constructor_misnamed : ¬ (stall "Market$1Stall").NamesConstructors := by
  intro h
  have hname := h [] _ _ 0 {} (ConstructorDraft.declareIn "Market$1Stall" {}) rfl rfl (by decide)
    (by decide) (.binary "Market" "1" (by decide)) rfl rfl
  revert hname
  decide

end ClassDraft

end Receiverless
