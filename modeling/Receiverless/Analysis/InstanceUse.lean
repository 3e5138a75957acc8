/-
  Receiverless/Analysis/InstanceUse.lean
  ======================================
  **Who needs the instance.**  A method needs the current instance when its
  body, at any depth,

  - reads an instance field, by its simple name or behind the instance,
  - names the instance itself, also as the target of a method reference,
  - creates an inner class of its own top-level class, which takes the current
    instance as its outer instance, or
  - calls an instance method without a receiver of its own.

  Calls are returned as edges, because whether they need the instance depends
  on whether the callee stays an instance method.

  **Attribution.**  A use is charged to the declarations around it, walking
  outward.  The innermost method is charged; a local or anonymous class is
  transparent, so the method that holds the class is charged too; a member
  class stops the walk, because its instances are not the ones of the class
  around it.  The plain instance, and `super`, denote the innermost class and
  are charged to the innermost method only.
-/
import Receiverless.Outline

namespace Receiverless

/-- A declaration around the place under analysis. -/
inductive Frame where
  | method (signature : Option MethodSig)
  | field
  | memberClass (type : String)
  /-- a local class or an anonymous class body -/
  | localClass (type : String)
deriving DecidableEq, Repr

/-- The frame that a node puts around its children.  An anonymous type without a name counts as the
    empty text. -/
def Node.frame? : Node → Option Frame
  | .memberClass decl => some (.memberClass decl.type)
  | .localClass decl => some (.localClass decl.type)
  | .anonymousBody type => some (.localClass (type.getD ""))
  | .field _ => some .field
  | .method decl => some (.method decl.signature)
  | _ => none

/-- The frames around the children of a node, innermost first. -/
def Node.enter (n : Node) (frames : List Frame) : List Frame :=
  n.frame?.toList ++ frames

namespace Frame

/-- The methods that a use is charged to, innermost first.  `armed` tells whether the next method
    is charged: a method or a field declaration disarms the walk and a local class arms it again.
    The walk stops at a member class, and at a local class whose type satisfies `stop`. -/
def charged (stop : String → Bool) : Bool → List Frame → List MethodSig
  | _, [] => []
  | armed, .method signature :: outer =>
    (if armed then signature.toList else []) ++ charged stop false outer
  | _, .field :: outer => charged stop false outer
  | _, .memberClass _ :: _ => []
  | _, .localClass type :: outer => if stop type then [] else charged stop true outer

/-- The methods that need the outer instance for a use in these frames. -/
def enclosing (frames : List Frame) : List MethodSig := charged (fun _ => false) true frames

/-- The method whose own instance is used in these frames, if the use sits directly in one. -/
def innermost : List Frame → List MethodSig
  | .method (some signature) :: _ => [signature]
  | _ => []

/-- The methods that need the instance of a callee declared in `owner`. -/
def callers (owner : String) (frames : List Frame) : List MethodSig :=
  charged (· == owner) true frames

/-- The type of the top-level class: the outermost member class. -/
def topLevel? (frames : List Frame) : Option String :=
  frames.foldl (fun top frame => match frame with
    | .memberClass type => some type
    | _ => top) none

end Frame

/-- The names, simple and qualified, of the inner classes of a class: its direct member classes that
    are not static.  What an interface holds is static. -/
def ClassDecl.innerNames (c : ClassDecl) : List String :=
  if c.kind = .interface then []
  else c.members.flatMap fun
    | .nested inner =>
      if inner.kind = .class ∧ ¬ inner.modifiers.has .static then [inner.name, inner.type] else []
    | _ => []

/-- The inner classes of the top-level class with a given type.  If several classes with inner
    classes share the type, the last one counts. -/
def innerNamesOf (classes : List ClassDecl) (type : String) : List String :=
  match (classes.filter fun c => c.type == type && !c.innerNames.isEmpty).getLast? with
  | none => []
  | some c => c.innerNames

/-- What uses are judged against: the instance fields and the top-level classes. -/
structure UsageContext where
  fields : List FieldSig
  classes : List ClassDecl

/-- Whether a name denotes an inner class of the top-level class around these frames. -/
def UsageContext.isInner (ctx : UsageContext) (frames : List Frame) (name : String) : Bool :=
  match Frame.topLevel? frames with
  | none => false
  | some top => name ∈ innerNamesOf ctx.classes top

/-- A call of the instance method `callee` on the current instance, charged to `caller`. -/
structure InstanceCall where
  caller : MethodSig
  callee : MethodSig
deriving DecidableEq, Repr

/-- The methods that a node by itself marks as users of the instance. -/
def Node.marks (ctx : UsageContext) (frames : List Frame) : Node → List MethodSig
  | .name ⟨_, some f, _⟩ true => if f ∈ ctx.fields then Frame.enclosing frames else []
  | .self (some _) => Frame.enclosing frames
  | .self none => Frame.innermost frames
  | .super => Frame.innermost frames
  | .methodRef "new" (some type) => if ctx.isInner frames type then Frame.enclosing frames else []
  | .create type => if ctx.isInner frames type then Frame.enclosing frames else []
  | _ => []

/-- The call edges of a node by itself. -/
def Node.calls (frames : List Frame) : Node → List InstanceCall
  | .call _ true (some ⟨callee, false⟩) =>
    (Frame.callers callee.owner frames).map fun caller => ⟨caller, callee⟩
  | _ => []

namespace Outline

variable {α : Type}

mutual

/-- Collect what each node contributes in its frames, a node before its children. -/
def collect (f : List Frame → Node → List α) (frames : List Frame) : Outline → List α
  | .node label children => f frames label ++ collectAll f (label.enter frames) children

def collectAll (f : List Frame → Node → List α) (frames : List Frame) : List Outline → List α
  | [] => []
  | o :: os => collect f frames o ++ collectAll f frames os

end

end Outline

/-- The outcome of the analysis. -/
structure Usage where
  /-- the methods that need the instance directly -/
  methods : List MethodSig
  /-- the calls on the current instance, in source order -/
  calls : List InstanceCall
deriving DecidableEq, Repr

/-- Analyse an outline whose top-level classes are `classes`. -/
def Outline.usage (fields : List FieldSig) (classes : List ClassDecl) (o : Outline) : Usage where
  methods := o.collect (fun frames n => n.marks ⟨fields, classes⟩ frames) []
  calls := o.collect (fun frames n => n.calls frames) []

/-- Analyse a whole unit. -/
def CompilationUnit.usage (fields : List FieldSig) (u : CompilationUnit) : Usage :=
  u.outline.usage fields u.classes

/-- Analyse one class as if it stood at the top level. -/
def ClassDecl.usage (fields : List FieldSig) (c : ClassDecl) : Usage :=
  c.outline.usage fields [c]

end Receiverless
