/-
  Receiverless/Tree/Signatures.lean
  =================================
  **Signatures of fields and methods.**  A signature names a member of a
  declaring type by value.  Trees are rebuilt when they change, so every set
  that has to outlive a change holds signatures and not tree nodes.
-/

namespace Receiverless

/-- A field: the type that declares it, its name and its own type. -/
structure FieldSig where
  owner : String
  name : String
  type : String
deriving DecidableEq, Repr

/-- A method: the type that declares it, its name, parameter types and result type. -/
structure MethodSig where
  owner : String
  name : String
  params : List String
  result : String
deriving DecidableEq, Repr

namespace FieldSig

/-- The text form. -/
def text (s : FieldSig) : String :=
  s.owner ++ "\x7bname=" ++ s.name ++ ",type=" ++ s.type ++ "\x7d"

/-- Lexicographic by owner, name and type. -/
def compare (a b : FieldSig) : Ordering :=
  (Ord.compare a.owner b.owner).then <|
    (Ord.compare a.name b.name).then (Ord.compare a.type b.type)

end FieldSig

/-- Lexicographic order of lists of texts: a proper initial part is smaller. -/
def compareTexts : List String → List String → Ordering
  | [], [] => .eq
  | [], _ :: _ => .lt
  | _ :: _, [] => .gt
  | a :: as, b :: bs => (Ord.compare a b).then (compareTexts as bs)

namespace MethodSig

/-- The text form. -/
def text (s : MethodSig) : String :=
  s.owner ++ "\x7bname=" ++ s.name ++ ",return=" ++ s.result ++ ",parameters=[" ++
    ",".intercalate s.params ++ "]\x7d"

/-- Lexicographic by owner, name, parameter types and result. -/
def compare (a b : MethodSig) : Ordering :=
  (Ord.compare a.owner b.owner).then <|
    (Ord.compare a.name b.name).then <|
      (compareTexts a.params b.params).then (Ord.compare a.result b.result)

end MethodSig

end Receiverless
