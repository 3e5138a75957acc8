/-
  Receiverless/Draft/Class.lean
  =============================
  **Declarations before they are resolved.**  A draft describes a declaration by
  the words a programmer would write.  Declaring a draft in a class fills in
  what a resolver would attach: every field variable and method gets a signature
  whose owner is the qualified name of that class, unless the draft says that it
  stays unresolved.  A nested class without a qualified name of its own is named
  after the class around it.
-/
import Receiverless.Tree.Basic

namespace Receiverless

/-! ### Fields -/

/-- A variable of a field draft. -/
structure VariableDraft where
  name : String
  init : Option Expr := none
  resolved : Bool := true

/-- A field declaration with at least one variable.  The steps that set a value or leave a variable
    unresolved act on the latest one. -/
structure FieldDraft where
  keywords : List Keyword := []
  type : String
  earlier : List VariableDraft := []
  latest : VariableDraft

namespace FieldDraft

def named (type name : String) : FieldDraft := { type, latest := { name } }

def withKeywords (d : FieldDraft) (ks : List Keyword) : FieldDraft := { d with keywords := ks }

/-- Give the latest variable an initial value. -/
def initialized (d : FieldDraft) (value : Expr) : FieldDraft :=
  { d with latest := { d.latest with init := some value } }

/-- Leave the latest variable without a signature. -/
def unresolved (d : FieldDraft) : FieldDraft :=
  { d with latest := { d.latest with resolved := false } }

/-- Declare one more variable. -/
def also (d : FieldDraft) (name : String) : FieldDraft :=
  { d with earlier := d.earlier ++ [d.latest], latest := { name } }

def declarators (d : FieldDraft) : List VariableDraft := d.earlier ++ [d.latest]

def declareIn (owner : String) (d : FieldDraft) : FieldDecl where
  modifiers := Modifiers.ofKeywords d.keywords
  type := d.type
  declarators := d.declarators.map fun v =>
    { name := v.name
      init := v.init
      signature := if v.resolved then some ⟨owner, v.name, d.type⟩ else none
      span := {} }
  span := {}

end FieldDraft

/-! ### Methods and constructors -/

/-- A parameter without modifiers. -/
def Param.plain (type name : String) : Param := { type, name }

/-- A method declaration, with an empty body unless told otherwise. -/
structure MethodDraft where
  keywords : List Keyword := []
  result : String
  name : String
  params : List Param := []
  body : Option (List Stmt) := some []
  resolved : Bool := true

namespace MethodDraft

def withKeywords (d : MethodDraft) (ks : List Keyword) : MethodDraft := { d with keywords := ks }

def addParam (d : MethodDraft) (p : Param) : MethodDraft := { d with params := d.params ++ [p] }

def withBody (d : MethodDraft) (body : Option (List Stmt)) : MethodDraft := { d with body }

def unresolved (d : MethodDraft) : MethodDraft := { d with resolved := false }

/-- The signature of the method inside a class. -/
def signatureFor (owner : String) (d : MethodDraft) : MethodSig where
  owner
  name := d.name
  params := d.params.map Param.type
  result := d.result

def declareIn (owner : String) (d : MethodDraft) : Method where
  modifiers := Modifiers.ofKeywords d.keywords
  typeParams := []
  result := d.result
  name := d.name
  params := d.params
  throws := []
  body := d.body
  signature := if d.resolved then some (d.signatureFor owner) else none
  span := {}

end MethodDraft

/-- A constructor declaration.  It has no name: constructors are named after their class. -/
structure ConstructorDraft where
  keywords : List Keyword := []
  params : List Param := []
  body : List Stmt := []

/-- The part of a qualified name behind its last dot or dollar sign. -/
def lastSegment (qualified : String) : String :=
  String.ofList (qualified.toList.reverse.takeWhile fun c => c != '.' && c != '$').reverse

namespace ConstructorDraft

def withKeywords (d : ConstructorDraft) (ks : List Keyword) : ConstructorDraft :=
  { d with keywords := ks }

def addParam (d : ConstructorDraft) (p : Param) : ConstructorDraft :=
  { d with params := d.params ++ [p] }

def withBody (d : ConstructorDraft) (body : List Stmt) : ConstructorDraft := { d with body }

def declareIn (owner : String) (d : ConstructorDraft) : Constructor where
  modifiers := Modifiers.ofKeywords d.keywords
  name := lastSegment owner
  params := d.params
  throws := []
  body := d.body
  span := {}

end ConstructorDraft

/-! ### Classes -/

mutual

/-- A member of a class draft.  `ready` members are taken over as they are. -/
inductive MemberDraft where
  | field (draft : FieldDraft)
  | method (draft : MethodDraft)
  | constructor (draft : ConstructorDraft)
  | nested (draft : ClassDraft)
  | ready (decl : Member)

/-- A class declaration; `qualified` is its qualified name if that is given. -/
structure ClassDraft where
  keywords : List Keyword
  kind : ClassKind
  name : String
  qualified : Option String
  superclass : Option String
  interfaces : List String
  members : List MemberDraft

end

namespace ClassDraft

/-- A class without members. -/
def named (name : String) (kind : ClassKind := .class) : ClassDraft :=
  ⟨[], kind, name, none, none, [], []⟩

def withKind (d : ClassDraft) (kind : ClassKind) : ClassDraft := { d with kind }

def withKeywords (d : ClassDraft) (ks : List Keyword) : ClassDraft := { d with keywords := ks }

def withQualified (d : ClassDraft) (type : String) : ClassDraft := { d with qualified := some type }

def extending (d : ClassDraft) (type : String) : ClassDraft := { d with superclass := some type }

def implementing (d : ClassDraft) (type : String) : ClassDraft :=
  { d with interfaces := d.interfaces ++ [type] }

def addMember (d : ClassDraft) (m : MemberDraft) : ClassDraft :=
  { d with members := d.members ++ [m] }

end ClassDraft

/-- An initializer block. -/
def MemberDraft.initializer (isStatic : Bool) (body : List Stmt) : MemberDraft :=
  .ready (.initializer isStatic body {})

mutual

/-- Declare a class under a qualified name. -/
def ClassDraft.declareAs (type : String) : ClassDraft → ClassDecl
  | ⟨keywords, kind, name, _, superclass, interfaces, members⟩ =>
    ⟨Modifiers.ofKeywords keywords, kind, name, type, superclass, interfaces,
      declareMembersIn type members, {}⟩

/-- Declare a member in the class with a given qualified name. -/
def MemberDraft.declareIn (owner : String) : MemberDraft → Member
  | .field d => .field (d.declareIn owner)
  | .method d => .method (d.declareIn owner)
  | .constructor d => .constructor (d.declareIn owner)
  | .nested d => .nested (d.declareAs (d.qualified.getD (owner ++ "." ++ d.name)))
  | .ready decl => decl

def declareMembersIn (owner : String) : List MemberDraft → List Member
  | [] => []
  | d :: rest => d.declareIn owner :: declareMembersIn owner rest

end

/-- Declare a class at the top level or in a body; its simple name is its default qualified name. -/
def ClassDraft.declare (d : ClassDraft) : ClassDecl := d.declareAs (d.qualified.getD d.name)

end Receiverless
