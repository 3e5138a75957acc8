/-
  Receiverless/Analysis/Eligibility.lean
  ======================================
  **Judging a method.**  A method may be made static when it is resolved and
  does not need the instance, is not static yet, cannot be overridden, has a
  body, and belongs to a top-level class.  Methods that can be overridden stay
  as they are, because a static method is not dispatched.
-/
import Receiverless.Tree.Basic

namespace Receiverless

/-- Whether a method may be made static, or the first reason why not. -/
inductive Verdict where
  | eligible
  | unresolved
  | usesInstance
  | alreadyStatic
  | overridable
  | abstract
  | notTopLevel
deriving DecidableEq, Repr

namespace Verdict

def text : Verdict → String
  | .eligible => "eligible"
  | .unresolved => "unresolved"
  | .usesInstance => "uses-instance-state"
  | .alreadyStatic => "already-static"
  | .overridable => "overridable"
  | .abstract => "abstract"
  | .notTopLevel => "not-top-level"

end Verdict

/-- Judge a method against the set of methods that need the instance and the top-level types. -/
def Method.verdict (usage : List MethodSig) (topLevel : List String) (m : Method) : Verdict :=
  match m.signature with
  | none => .unresolved
  | some signature =>
    if signature ∈ usage then .usesInstance
    else if m.isStatic then .alreadyStatic
    else if !m.isFixed then .overridable
    else if m.isAbstract then .abstract
    else if signature.owner ∉ topLevel then .notTopLevel
    else .eligible

def Method.isEligible (usage : List MethodSig) (topLevel : List String) (m : Method) : Bool :=
  m.verdict usage topLevel == .eligible

end Receiverless
