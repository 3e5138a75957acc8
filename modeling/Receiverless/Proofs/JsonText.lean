/-
  Receiverless/Proofs/JsonText.lean
  =================================
  **JSON texts say what they were written from.**  The indented text of a value
  without floating-point numbers can be read in one way, whatever text follows, as
  long as that does not go on a number (`Json.FloatFree.reads`).  The first
  character tells the kind of the value; a string ends at its quote, a number at
  the first character that is no digit, and behind an element of an array or object
  a comma or a line end tells whether another one follows.

  The text of a report therefore determines the report (`Report.text_inj`).
-/
import Receiverless.Pass.Changes
import Receiverless.Proofs.Reading

namespace Receiverless

open Text

namespace Json

/-! ### Strings -/

/-- The value of a hexadecimal digit in lower case. -/
def hexValue (c : Char) : Nat := if c.isDigit then c.toNat - 48 else c.toNat - 87

theorem hexValue_hexDigit : ∀ n < 16, hexValue (hexDigit n) = n := by decide

/-- The character that a letter behind a backslash stands for. -/
def escaped? : Char → Option Char
  | '"' => some '"'
  | '\\' => some '\\'
  | 'n' => some '\n'
  | 'r' => some '\r'
  | 't' => some '\t'
  | 'b' => some (Char.ofNat 8)
  | 'f' => some (Char.ofNat 12)
  | _ => none

/-- Read one character of a string, escaped or not. -/
def readChar : List Char → Option (Char × List Char)
  | '\\' :: 'u' :: '0' :: '0' :: a :: b :: r =>
    some (Char.ofNat (16 * hexValue a + hexValue b), r)
  | '\\' :: c :: r => (escaped? c).map fun x => (x, r)
  | c :: r => some (c, r)
  | [] => none

theorem readChar_escape (c : Char) (r : List Char) : readChar (escape c ++ r) = some (c, r) := by
  have hcode : ∀ n, c.toNat = n → c = Char.ofNat n := fun n h => by rw [← h, Char.ofNat_toNat]
  unfold escape
  split_ifs with hquote hslash hfeed hreturn htab hback hform hcontrol
  · rw [hquote]; rfl
  · rw [hslash]; rfl
  · rw [hfeed]; rfl
  · rw [hreturn]; rfl
  · rw [htab]; rfl
  · rw [hcode 8 hback]; rfl
  · rw [hcode 12 hform]; rfl
  · have hhigh := hexValue_hexDigit (c.toNat / 16) (by omega)
    have hlow := hexValue_hexDigit (c.toNat % 16) (by omega)
    have hsum : 16 * (c.toNat / 16) + c.toNat % 16 = c.toNat := by omega
    simp only [List.cons_append, List.nil_append, readChar, hhigh, hlow, hsum, Char.ofNat_toNat]
  · simp [readChar, hslash]

theorem escaping : Escaping '"' escape :=
  .of_read readChar_escape (fun _ => rfl) (by decide)

theorem read_quoted {s s' : String} {r r' : List Char}
    (h : (quoted s).toList ++ r = (quoted s').toList ++ r') : s = s' ∧ r = r' :=
  escaping.read_text h

/-! ### Elements on lines -/

/-- What stands behind the first element: the other ones, each behind a comma, and the closing
    bracket. -/
def moreLines (closing : String) (depth : Nat) : List String → List Char
  | [] => (lineStart depth).toList ++ closing.toList
  | e :: es => ',' :: (lineStart (depth + 1)).toList ++ e.toList ++ moreLines closing depth es

theorem toList_intercalate (closing : String) (depth : Nat) (e : String) (es : List String) :
    (",".intercalate ((e :: es).map fun e => lineStart (depth + 1) ++ e)).toList ++
        ((lineStart depth).toList ++ closing.toList) =
      (lineStart (depth + 1)).toList ++ (e.toList ++ moreLines closing depth es) := by
  induction es generalizing e with
  | nil => simp [moreLines]
  | cons e' es ih =>
    have hrest := ih e'
    rw [List.map_cons] at hrest
    rw [List.map_cons, List.map_cons, String.intercalate_cons_cons, String.toList_append,
      List.append_assoc, hrest]
    simp [moreLines]

theorem toList_onLines (opening closing : String) (depth : Nat) (e : String) (es : List String) :
    (onLines opening closing depth (e :: es)).toList =
      opening.toList ++ ((lineStart (depth + 1)).toList ++
        (e.toList ++ moreLines closing depth es)) := by
  rw [← toList_intercalate, onLines]
  simp only [String.toList_append, List.append_assoc]

theorem lineStart_eq (depth : Nat) : ∃ cs, (lineStart depth).toList = '\n' :: cs :=
  ⟨_, String.toList_append⟩

theorem noDigit_moreLines (closing : String) (depth : Nat) (es : List String) (r : List Char) :
    NoDigit (moreLines closing depth es ++ r) := by
  rcases es with _ | ⟨e, es⟩
  · obtain ⟨cs, hcs⟩ := lineStart_eq depth
    rw [moreLines, hcs]
    exact noDigit_cons (by decide) _
  · exact noDigit_cons (by decide) _

/-- Pieces with texts that can be read one by one. -/
def Reads {α : Type} (text : α → String) (a b : α) : Prop :=
  ∀ r t, NoDigit r → NoDigit t → (text a).toList ++ r = (text b).toList ++ t → a = b ∧ r = t

theorem read_moreLines {α : Type} {text : α → String} {as bs : List α} {closing : String}
    {depth : Nat} (h : ∀ a ∈ as, ∀ b ∈ bs, Reads text a b) {r t : List Char}
    (heq : moreLines closing depth (as.map text) ++ r =
      moreLines closing depth (bs.map text) ++ t) : as = bs ∧ r = t := by
  obtain ⟨cs, hcs⟩ := lineStart_eq depth
  induction as generalizing bs with
  | nil =>
    rcases bs with _ | ⟨b, bs⟩
    · exact ⟨rfl, List.append_cancel_left heq⟩
    · rw [List.map_nil, List.map_cons, moreLines, moreLines, hcs] at heq
      exact absurd (List.cons.inj heq).1 (by decide)
  | cons a as ih =>
    rcases bs with _ | ⟨b, bs⟩
    · rw [List.map_nil, List.map_cons, moreLines, moreLines, hcs] at heq
      exact absurd (List.cons.inj heq).1 (by decide)
    · simp only [List.map_cons, moreLines, List.cons_append, List.append_assoc, List.cons.injEq,
        true_and, List.append_cancel_left_eq] at heq
      obtain ⟨rfl, hrest⟩ := h a List.mem_cons_self b List.mem_cons_self _ _
        (noDigit_moreLines _ _ _ _) (noDigit_moreLines _ _ _ _) heq
      obtain ⟨rfl, hend⟩ := ih
        (fun x hx y hy => h x (List.mem_cons_of_mem _ hx) y (List.mem_cons_of_mem _ hy)) hrest
      exact ⟨rfl, hend⟩

/-- Elements on lines of their own, or just the two brackets if there are none. -/
def bracketed (opening closing : String) (depth : Nat) : List String → String
  | [] => opening ++ closing
  | e :: es => onLines opening closing depth (e :: es)

/-- Without elements the closing bracket follows at once. -/
theorem empty_ne_onLines {opening closing : String} {c : Char} (hc : closing.toList = [c])
    (hne : c ≠ '\n') {depth : Nat} {e : String} {es : List String} {r t : List Char} :
    (opening ++ closing).toList ++ r ≠ (onLines opening closing depth (e :: es)).toList ++ t := by
  intro heq
  obtain ⟨cs, hcs⟩ := lineStart_eq (depth + 1)
  rw [toList_onLines, String.toList_append, List.append_assoc, List.append_assoc, hcs, hc] at heq
  exact hne (List.cons.inj (List.append_cancel_left heq)).1

theorem read_bracketed {α : Type} {text : α → String} {as bs : List α} {opening closing : String}
    {c : Char} (hc : closing.toList = [c]) (hne : c ≠ '\n') {depth : Nat}
    (h : ∀ a ∈ as, ∀ b ∈ bs, Reads text a b) {r t : List Char}
    (heq : (bracketed opening closing depth (as.map text)).toList ++ r =
      (bracketed opening closing depth (bs.map text)).toList ++ t) :
    as = bs ∧ r = t := by
  rcases as with _ | ⟨a, as⟩ <;> rcases bs with _ | ⟨b, bs⟩
  · exact ⟨rfl, List.append_cancel_left heq⟩
  · exact absurd heq (empty_ne_onLines hc hne)
  · exact absurd heq.symm (empty_ne_onLines hc hne)
  · simp only [List.map_cons, bracketed, toList_onLines, List.append_assoc,
      List.append_cancel_left_eq] at heq
    obtain ⟨rfl, hrest⟩ := h a List.mem_cons_self b List.mem_cons_self _ _
      (noDigit_moreLines _ _ _ _) (noDigit_moreLines _ _ _ _) heq
    obtain ⟨rfl, hend⟩ := read_moreLines
      (fun x hx y hy => h x (List.mem_cons_of_mem _ hx) y (List.mem_cons_of_mem _ hy)) hrest
    exact ⟨rfl, hend⟩

/-! ### Values -/

/-- No floating-point number lies in the value.  What is not a number has the text of `null`. -/
inductive FloatFree : Json → Prop where
  | null : FloatFree .null
  | bool (b : Bool) : FloatFree (.bool b)
  | int (n : Int) : FloatFree (.int n)
  | string (s : String) : FloatFree (.string s)
  | array {items : List Json} (h : ∀ v ∈ items, FloatFree v) : FloatFree (.array items)
  | object {fields : List (String × Json)} (h : ∀ f ∈ fields, FloatFree f.2) :
      FloatFree (.object fields)

attribute [simp] FloatFree.bool FloatFree.int FloatFree.string

@[simp] theorem floatFree_array_iff {items : List Json} :
    FloatFree (.array items) ↔ ∀ v ∈ items, FloatFree v := by
  constructor
  · intro h
    cases h
    assumption
  · exact .array

@[simp] theorem floatFree_object_iff {fields : List (String × Json)} :
    FloatFree (.object fields) ↔ ∀ f ∈ fields, FloatFree f.2 := by
  constructor
  · intro h
    cases h
    assumption
  · exact .object

inductive Kind where
  | null | bool | number | string | array | object

def kind : Json → Kind
  | .null => .null
  | .bool _ => .bool
  | .int _ | .float _ => .number
  | .string _ => .string
  | .array _ => .array
  | .object _ => .object

/-- The kind of a value by the first character of its text. -/
def Kind.ofFirst (c : Char) : Kind :=
  if c = 'n' then .null
  else if c = 't' then .bool
  else if c = 'f' then .bool
  else if c = '"' then .string
  else if c = '[' then .array
  else if c = '\x7b' then .object
  else .number

@[simp] theorem prettyAt_null (depth : Nat) : prettyAt depth .null = "null" := by
  simp [prettyAt, scalarText]

@[simp] theorem prettyAt_true (depth : Nat) : prettyAt depth (.bool true) = "true" := by
  simp [prettyAt, scalarText]

@[simp] theorem prettyAt_false (depth : Nat) : prettyAt depth (.bool false) = "false" := by
  simp [prettyAt, scalarText]

@[simp] theorem prettyAt_int (depth : Nat) (n : Int) : prettyAt depth (.int n) = toString n := by
  simp [prettyAt, scalarText]

@[simp] theorem prettyAt_string (depth : Nat) (s : String) :
    prettyAt depth (.string s) = quoted s := by
  simp [prettyAt, scalarText]

theorem prettyItems_eq_map (depth : Nat) (vs : List Json) :
    prettyItems depth vs = vs.map (prettyAt depth) := by
  induction vs with
  | nil => rfl
  | cons v vs ih => rw [prettyItems, ih, List.map_cons]

/-- The text of one field of an object. -/
def prettyField (depth : Nat) (f : String × Json) : String :=
  quoted f.1 ++ ": " ++ f.2.prettyAt depth

theorem prettyFields_eq_map (depth : Nat) (fs : List (String × Json)) :
    prettyFields depth fs = fs.map (prettyField depth) := by
  induction fs with
  | nil => rfl
  | cons f fs ih => rw [prettyFields, ih, List.map_cons, prettyField]

theorem prettyAt_array (depth : Nat) (vs : List Json) :
    prettyAt depth (.array vs) = bracketed "[" "]" depth (vs.map (prettyAt (depth + 1))) := by
  rcases vs with _ | ⟨v, vs⟩
  · simp [prettyAt, scalarText, bracketed]
  · rw [prettyAt, prettyItems_eq_map, List.map_cons, bracketed]

theorem prettyAt_object (depth : Nat) (fs : List (String × Json)) :
    prettyAt depth (.object fs) =
      bracketed "\x7b" "\x7d" depth (fs.map (prettyField (depth + 1))) := by
  rcases fs with _ | ⟨f, fs⟩
  · simp [prettyAt, scalarText, bracketed]
  · rw [prettyAt, prettyFields_eq_map, List.map_cons, bracketed]

theorem first_bracketed (opening closing : String) {c : Char} (hc : opening.toList = [c])
    (depth : Nat) (es : List String) :
    ∃ cs, (bracketed opening closing depth es).toList = c :: cs := by
  rcases es with _ | ⟨e, es⟩
  · rw [bracketed, String.toList_append, hc]
    exact ⟨_, rfl⟩
  · rw [bracketed, toList_onLines, hc]
    exact ⟨_, rfl⟩

theorem Kind.ofFirst_of_isDigit {c : Char} (hc : c.isDigit = true) : ofFirst c = .number := by
  have hne : ∀ x, x.isDigit = false → c ≠ x := by
    rintro x hx rfl
    rw [hx] at hc
    cases hc
  simp [ofFirst, hne 'n' rfl, hne 't' rfl, hne 'f' rfl, hne '"' rfl, hne '[' rfl, hne '\x7b' rfl]

theorem first_integer (n : Int) :
    ∃ c cs, (toString n).toList = c :: cs ∧ Kind.ofFirst c = .number := by
  rcases n with n | n
  · obtain ⟨c, cs, hn, hc⟩ := head_natural n
    exact ⟨c, cs, hn, Kind.ofFirst_of_isDigit hc⟩
  · exact ⟨'-', _, toList_negSucc n, rfl⟩

theorem FloatFree.first {v : Json} (hv : FloatFree v) (depth : Nat) :
    ∃ c cs, (v.prettyAt depth).toList = c :: cs ∧ Kind.ofFirst c = v.kind := by
  cases hv with
  | null => exact ⟨'n', _, by rw [prettyAt_null]; rfl, rfl⟩
  | bool b =>
    cases b with
    | true => exact ⟨'t', _, by rw [prettyAt_true]; rfl, rfl⟩
    | false => exact ⟨'f', _, by rw [prettyAt_false]; rfl, rfl⟩
  | int n =>
    rw [prettyAt_int]
    exact first_integer n
  | string s => exact ⟨'"', _, by rw [prettyAt_string, quoted, String.toList_ofList]; rfl, rfl⟩
  | array h =>
    rw [prettyAt_array]
    obtain ⟨cs, hcs⟩ := first_bracketed "[" "]" rfl depth _
    exact ⟨'[', cs, hcs, rfl⟩
  | object h =>
    rw [prettyAt_object]
    obtain ⟨cs, hcs⟩ := first_bracketed "\x7b" "\x7d" rfl depth _
    exact ⟨'\x7b', cs, hcs, rfl⟩

theorem FloatFree.kind_eq {v w : Json} (hv : FloatFree v) (hw : FloatFree w) {depth : Nat}
    {r t : List Char} (h : (v.prettyAt depth).toList ++ r = (w.prettyAt depth).toList ++ t) :
    v.kind = w.kind := by
  obtain ⟨c, cs, hc, hkind⟩ := hv.first depth
  obtain ⟨c', cs', hc', hkind'⟩ := hw.first depth
  rw [hc, hc'] at h
  rw [← hkind, ← hkind', (List.cons.inj h).1]

theorem read_field {depth : Nat} {f g : String × Json}
    (h : Reads (prettyAt depth) f.2 g.2) : Reads (prettyField depth) f g := by
  intro r t hr ht heq
  obtain ⟨k, v⟩ := f
  obtain ⟨k', w⟩ := g
  simp only [prettyField, String.toList_append, List.append_assoc] at heq
  obtain ⟨rfl, hvalue⟩ := read_quoted heq
  obtain ⟨rfl, hrest⟩ := h r t hr ht (List.append_cancel_left hvalue)
  exact ⟨rfl, hrest⟩

theorem reads_bool (depth : Nat) (b b' : Bool) : Reads (prettyAt depth) (.bool b) (.bool b') := by
  intro r t _ _ h
  cases b <;> cases b'
  · exact ⟨rfl, List.append_cancel_left h⟩
  · rw [prettyAt_true, prettyAt_false] at h
    exact absurd (List.cons.inj h).1 (by decide)
  · rw [prettyAt_true, prettyAt_false] at h
    exact absurd (List.cons.inj h).1 (by decide)
  · exact ⟨rfl, List.append_cancel_left h⟩

/-- The indented text of a value ends where it ends, and no other value has it. -/
theorem FloatFree.reads {v w : Json} (hv : FloatFree v) (hw : FloatFree w) (depth : Nat) :
    Reads (prettyAt depth) v w := by
  intro r t hr ht heq
  have hkind := hv.kind_eq hw heq
  induction hv generalizing w depth r t with
  | null =>
    cases hw with
    | null => exact ⟨rfl, List.append_cancel_left heq⟩
    | _ => cases hkind
  | bool b =>
    cases hw with
    | bool b' => exact reads_bool depth b b' r t hr ht heq
    | _ => cases hkind
  | int n =>
    cases hw with
    | int n' =>
      rw [prettyAt_int, prettyAt_int] at heq
      obtain ⟨rfl, hrest⟩ := read_integer hr ht heq
      exact ⟨rfl, hrest⟩
    | _ => cases hkind
  | string s =>
    cases hw with
    | string s' =>
      rw [prettyAt_string, prettyAt_string] at heq
      obtain ⟨rfl, hrest⟩ := read_quoted heq
      exact ⟨rfl, hrest⟩
    | _ => cases hkind
  | array h ih =>
    cases hw with
    | array h' =>
      rw [prettyAt_array, prettyAt_array] at heq
      have hitems : ∀ x ∈ _, ∀ y ∈ _, Reads (prettyAt (depth + 1)) x y :=
        fun x hx y hy r t hr ht heq =>
          ih x hx (h' y hy) _ r t hr ht heq ((h x hx).kind_eq (h' y hy) heq)
      obtain ⟨rfl, hrest⟩ := read_bracketed rfl (by decide) hitems heq
      exact ⟨rfl, hrest⟩
    | _ => cases hkind
  | object h ih =>
    cases hw with
    | object h' =>
      rw [prettyAt_object, prettyAt_object] at heq
      have hfields : ∀ x ∈ _, ∀ y ∈ _, Reads (prettyField (depth + 1)) x y :=
        fun x hx y hy => read_field fun r t hr ht heq =>
          ih x hx (h' y hy) _ r t hr ht heq ((h x hx).kind_eq (h' y hy) heq)
      obtain ⟨rfl, hrest⟩ := read_bracketed rfl (by decide) hfields heq
      exact ⟨rfl, hrest⟩
    | _ => cases hkind

theorem FloatFree.pretty_inj {v w : Json} (hv : FloatFree v) (hw : FloatFree w) :
    v.pretty = w.pretty ↔ v = w := by
  constructor
  · intro h
    have hnil : NoDigit [] := by simp [NoDigit]
    exact (hv.reads hw 0 [] [] hnil hnil (by rw [← pretty, ← pretty, h])).1
  · rintro rfl
    rfl

end Json

/-! ### Reports -/

@[simp] theorem MethodSig.floatFree_toJson (s : MethodSig) : s.toJson.FloatFree := by
  simp [MethodSig.toJson]

@[simp] theorem Position.floatFree_toJson (p : Position) : p.toJson.FloatFree := by
  simp [Position.toJson]

@[simp] theorem Span.floatFree_toJson (s : Span) : s.toJson.FloatFree := by
  simp [Span.toJson]

@[simp] theorem Change.floatFree_toJson (c : Change) : c.toJson.FloatFree := by
  simp [Change.toJson]

theorem Report.floatFree_toJson (r : Report) : r.toJson.FloatFree := by
  cases hp : r.path <;> simp [Report.toJson, hp]

theorem MethodSig.toJson_injective : Function.Injective MethodSig.toJson := by
  rintro ⟨owner, name, params, result⟩ ⟨owner', name', params', result'⟩ h
  have hstring : Function.Injective Json.string := fun _ _ => Json.string.inj
  simpa [MethodSig.toJson, hstring.list_map.eq_iff] using h

theorem Position.toJson_injective : Function.Injective Position.toJson := by
  rintro ⟨line, column⟩ ⟨line', column'⟩ h
  simpa [Position.toJson, Int.natCast_inj] using h

theorem Span.toJson_injective : Function.Injective Span.toJson := by
  rintro ⟨start, stop⟩ ⟨start', stop'⟩ h
  simpa [Span.toJson, Position.toJson_injective.eq_iff] using h

theorem Change.toJson_injective : Function.Injective Change.toJson := by
  rintro ⟨method, span, before, after⟩ ⟨method', span', before', after'⟩ h
  simpa [Change.toJson, MethodSig.toJson_injective.eq_iff, Span.toJson_injective.eq_iff] using h

theorem Report.toJson_injective : Function.Injective Report.toJson := by
  rintro ⟨path, dryRun, changes⟩ ⟨path', dryRun', changes'⟩ h
  have hchanges := Change.toJson_injective.list_map
  -- A path that is left out shows in the name of the first field.
  rcases path with _ | p <;> rcases path' with _ | p'
  · simpa [Report.toJson, hchanges.eq_iff] using h
  · simp [Report.toJson] at h
  · simp [Report.toJson] at h
  · simpa [Report.toJson, hchanges.eq_iff] using h

/-- Two reports have the same text only if they are the same report. -/
theorem Report.text_inj (a b : Report) : a.text = b.text ↔ a = b := by
  rw [Report.text, Report.text, a.floatFree_toJson.pretty_inj b.floatFree_toJson,
    Report.toJson_injective.eq_iff]

end Receiverless
