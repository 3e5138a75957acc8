/-
  Receiverless/Analysis/CallClosure.lean
  ======================================
  **Closing the usage set over calls.**  A method that calls an instance method
  on the current instance needs the instance itself, unless the callee is
  static or is about to become static.  Marking a caller can make it
  ineligible and so affect its own callers; the closure repeats until nothing
  changes.  Each round that changes something marks the caller of an edge that
  was not marked before, so as many rounds as there are edges are enough.
-/
import Receiverless.Analysis.Fields
import Receiverless.Analysis.InstanceUse
import Receiverless.Analysis.Eligibility

namespace Receiverless

/-! ### The methods that calls can be resolved to -/

mutual

/-- The methods declared by a member and by the member classes in it.  Local and anonymous classes
    are left out: their methods are never eligible, so they are treated like unknown ones. -/
def Member.declaredMethods : Member → List Method
  | .method decl => [decl]
  | .nested ⟨_, _, _, _, _, _, members, _⟩ => declaredMethodsOfAll members
  | _ => []

def declaredMethodsOfAll : List Member → List Method
  | [] => []
  | d :: rest => d.declaredMethods ++ declaredMethodsOfAll rest

end

def CompilationUnit.declaredMethods (u : CompilationUnit) : List Method :=
  u.classes.flatMap fun c => declaredMethodsOfAll c.members

/-- Resolved methods by signature. -/
abbrev MethodTable := MethodSig → Option Method

/-- Look up among declarations; the last one with the signature counts. -/
def MethodTable.ofMethods (ms : List Method) : MethodTable := fun signature =>
  (ms.filter fun m => m.signature == some signature).getLast?

/-- The methods of the member classes of a unit. -/
def CompilationUnit.methodTable (u : CompilationUnit) : MethodTable :=
  MethodTable.ofMethods u.declaredMethods

/-! ### The closure -/

/-- Whether a callee works without an instance under a usage set: it is declared in the unit, and is
    static or eligible. -/
def MethodTable.needsNoInstance (index : MethodTable) (topLevel : List String)
    (usage : List MethodSig) (callee : MethodSig) : Bool :=
  match index callee with
  | none => false
  | some m => m.isStatic || m.isEligible usage topLevel

/-- Mark the caller of one edge if it has to be marked. -/
def closeCall (index : MethodTable) (topLevel : List String) (usage : List MethodSig)
    (edge : InstanceCall) : List MethodSig :=
  if edge.caller ∈ usage then usage
  else if index.needsNoInstance topLevel usage edge.callee then usage
  else edge.caller :: usage

/-- One round over all edges. -/
def closeRound (index : MethodTable) (topLevel : List String) (calls : List InstanceCall)
    (usage : List MethodSig) : List MethodSig :=
  calls.foldl (closeCall index topLevel) usage

/-- At most `rounds` rounds, ending early when a round changes nothing. -/
def closeRounds (index : MethodTable) (topLevel : List String) (calls : List InstanceCall) :
    Nat → List MethodSig → List MethodSig
  | 0, usage => usage
  | rounds + 1, usage =>
    let next := closeRound index topLevel calls usage
    if next.length = usage.length then usage else closeRounds index topLevel calls rounds next

/-- The usage set closed over calls. -/
def callClosure (index : MethodTable) (topLevel : List String) (calls : List InstanceCall)
    (usage : List MethodSig) : List MethodSig :=
  closeRounds index topLevel calls calls.length usage

/-! ### The analysis of a unit -/

/-- Everything methods are judged against. -/
structure Analysis where
  /-- the instance fields of the top-level classes -/
  instanceFields : List FieldSig
  /-- the methods that need the instance, closed over calls -/
  usage : List MethodSig
  /-- the types of the top-level classes -/
  topLevel : List String
deriving DecidableEq, Repr

def CompilationUnit.analysis (u : CompilationUnit) : Analysis :=
  let fields := u.instanceFields
  let direct := u.usage fields
  { instanceFields := fields
    usage := callClosure u.methodTable u.topLevelTypes direct.calls direct.methods
    topLevel := u.topLevelTypes }

def Analysis.verdict (a : Analysis) (m : Method) : Verdict := m.verdict a.usage a.topLevel

def Analysis.isEligible (a : Analysis) (m : Method) : Bool := m.isEligible a.usage a.topLevel

end Receiverless
