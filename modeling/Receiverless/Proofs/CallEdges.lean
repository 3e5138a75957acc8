/-
  Receiverless/Proofs/CallEdges.lean
  ==================================
  **The call edges, without a stack.**  An edge is recorded for every method
  around a call that would have to hand its instance to the callee.  The analysis
  finds these methods by an outward walk over frames that carries a flag.  Here
  they are read off the tree: go through its parts in source order, each with the
  parts around it, and for a call on the current instance take the methods around
  it up to the first class that shuts the callee's instance in
  (`Scope.calls_eq_edges`).

    * What is collected over an outline is what the parts open with, each in the
      frames of the parts around it (`Part.collect_eq_visits`).
    * The parts around a part lie on the way down to it from a class, where the
      flag of the walk never matters (`Part.callers_eq`).
-/
import Receiverless.Proofs.Attribution

namespace Receiverless

/-! ### Parts with what is around them -/

namespace Part

/-- All parts in a part, each before its direct parts and with the parts around it, innermost
    first. -/
def visits (around : List Part) (p : Part) : List (List Part × Part) :=
  (around, p) :: p.children.attach.flatMap fun q => q.1.visits (p :: around)
termination_by sizeOf p
decreasing_by exact sizeOf_lt_of_mem_children q.2

theorem visits_eq (around : List Part) (p : Part) :
    p.visits around = (around, p) :: p.children.flatMap fun q => q.visits (p :: around) := by
  rw [visits]
  simp only [List.flatMap_subtype, List.unattach_attach]

/-- The nodes that stand before those of the direct parts, as far as they tell more than the form of
    a construct. -/
def opening (p : Part) : List Node := p.expr?.toList.map .expr ++ p.lead

theorem filterMap_frame?_cons (p : Part) (around : List Part) :
    (p :: around).filterMap frame? = p.enter (around.filterMap frame?) := by
  rw [enter, List.filterMap_cons]
  cases p.frame? <;> rfl

theorem collect_eq_visits {α : Type} {f : List Frame → Node → List α} (hf : Thin f)
    (hname : ∀ frames n own, f frames (.name n own) = []) (around : List Part) (p : Part) :
    p.outline.collect f (around.filterMap frame?) =
      (p.visits around).flatMap fun v => v.2.opening.flatMap (f (v.1.filterMap frame?)) := by
  induction p using Part.induction generalizing around with
  | step p ih =>
    have hchildren : p.children.flatMap (fun q =>
        q.outline.collect f (p.enter (around.filterMap frame?))) =
          p.children.flatMap fun q => (q.visits (p :: around)).flatMap fun v =>
            v.2.opening.flatMap (f (v.1.filterMap frame?)) := by
      apply List.flatMap_congr
      intro q hq
      rw [← filterMap_frame?_cons, ih q hq]
    rw [p.collect_thin hf, p.flatMap_trail (hname _), List.append_nil, hchildren, visits_eq,
      List.flatMap_cons, List.flatMap_assoc, opening, List.flatMap_append, List.flatMap_map]

/-- The parts around a visited part are those on the way down to it. -/
theorem descends_of_mem_visits {around : List Part} {p : Part} {v : List Part × Part}
    (h : v ∈ p.visits around) :
    Descends (around.filterMap frame?, p) (v.1.filterMap frame?, v.2) := by
  induction p using Part.induction generalizing around with
  | step p ih =>
    rw [visits_eq] at h
    rcases List.mem_cons.mp h with rfl | hbelow
    · exact Relation.ReflTransGen.refl
    · obtain ⟨q, hq, hv⟩ := List.mem_flatMap.mp hbelow
      exact (ih q hq hv).head ⟨filterMap_frame?_cons p around, hq⟩

end Part

/-! ### Edges -/

/-- The instance method that a call on the current instance is resolved to.  Such a call has no
    receiver, or the current instance, plain or qualified, or `super`. -/
def Expr.instanceCallee? : Expr → Option MethodSig
  | .call none _ _ (some ⟨callee, false⟩) _ => some callee
  | .call (some (.self _ _)) _ _ (some ⟨callee, false⟩) _ => some callee
  | .call (some .super) _ _ (some ⟨callee, false⟩) _ => some callee
  | _ => none

namespace Part

def instanceCallee? (p : Part) : Option MethodSig := p.expr?.bind Expr.instanceCallee?

/-- Whether a class shuts in the calls of methods declared in `owner`: a member class always, a
    local or anonymous class if it is the owner.  An anonymous class without a type counts as one of
    the empty type. -/
def shutsIn (owner : String) : Part → Bool
  | .member (.nested _) => true
  | .stmt (.localClass decl) => decl.type == owner
  | .anonymous body => body.type.getD "" == owner
  | _ => false

def signature? (p : Part) : Option MethodSig := p.method?.bind Method.signature

/-- The edges of a part with the given parts around it, from the innermost caller to the
    outermost. -/
def edges (around : List Part) (p : Part) : List InstanceCall :=
  p.instanceCallee?.toList.flatMap fun callee =>
    ((around.takeWhile fun q => !q.shutsIn callee.owner).filterMap signature?).map fun caller =>
      ⟨caller, callee⟩

theorem all_frame?_stops (owner : String) (p : Part) :
    (p.frame?.all fun f => !f.stops (· == owner)) = !p.shutsIn owner := by
  cases p with
  | expr e => rfl
  | stmt s => cases s <;> rfl
  | anonymous body => rfl
  | member d => cases d <;> rfl

theorem bind_frame?_signature? (p : Part) : p.frame?.bind Frame.signature? = p.signature? := by
  cases p with
  | expr e => rfl
  | stmt s => cases s <;> rfl
  | anonymous body => rfl
  | member d => cases d <;> rfl

/-- The outward walk over the frames of the parts around, without its flag. -/
theorem callers_eq {around : List Part} (h : Frame.WellNested (around.filterMap frame?))
    (owner : String) :
    Frame.callers owner (around.filterMap frame?) =
      (around.takeWhile fun q => !q.shutsIn owner).filterMap signature? := by
  rw [Frame.callers, Frame.charged_eq _ h, List.takeWhile_filterMap, List.filterMap_filterMap]
  simp only [all_frame?_stops, bind_frame?_signature?]

end Part

/-- A call records edges if it is one on the current instance. -/
theorem Node.calls_call (frames : List Frame) (receiver : Option Expr) (name : String)
    (args : List Expr) (target : Option CallTarget) (span : Span) :
    (Node.call name (implicitReceiver receiver) target).calls frames =
      (Expr.call receiver name args target span).instanceCallee?.toList.flatMap fun callee =>
        (Frame.callers callee.owner frames).map fun caller => ⟨caller, callee⟩ := by
  rcases target with _ | ⟨callee, _ | _⟩
  · cases receiver with
    | none => rfl
    | some e => cases e <;> rfl
  · -- an instance method: the receiver decides
    cases receiver with
    | none => simp [calls, implicitReceiver, Expr.instanceCallee?]
    | some e => cases e <;> simp [calls, implicitReceiver, Expr.instanceCallee?, Expr.isReceiver]
  · cases receiver with
    | none => rfl
    | some e => cases e <;> rfl

theorem Part.opening_calls {around : List Part} (h : Frame.WellNested (around.filterMap frame?))
    (p : Part) : p.opening.flatMap (Node.calls (around.filterMap frame?)) = p.edges around := by
  cases p with
  | expr e =>
    cases e with
    | call receiver name args target span =>
      simp only [edges, instanceCallee?, ← callers_eq h]
      exact (List.flatMap_singleton ..).trans (Node.calls_call _ receiver name args target span)
    | _ => rfl
  | stmt s => rfl
  | anonymous body => rfl
  | member d => cases d <;> rfl

/-! ### The edges of a scope -/

def Node.expr? : Node → Option Expr
  | .expr e => some e
  | _ => none

theorem Node.thin_expr? : Thin fun _ n => (Node.expr? n).toList where
  unit _ _ := rfl
  memberClass _ _ := rfl
  localClass _ _ := rfl
  anonymousBody _ _ := rfl
  member _ _ := rfl
  field _ _ := rfl
  constructor _ _ := rfl
  initializer _ _ := rfl
  block _ _ := rfl
  stmt _ _ := rfl
  access _ _ _ := rfl
  lambda _ _ := rfl

theorem Part.opening_expr? (p : Part) :
    p.opening.flatMap (fun n => n.expr?.toList) = p.expr?.toList := by
  cases p with
  | expr e => cases e <;> rfl
  | stmt s => rfl
  | anonymous body => rfl
  | member d => cases d <;> rfl

namespace Scope

/-- The parts of the classes in source order, each with the parts around it. -/
def visits (scope : Scope) : List (List Part × Part) :=
  scope.classes.flatMap fun c => (Part.member (.nested c)).visits []

theorem collect_eq_visits {α : Type} {f : List Frame → Node → List α} (hf : Thin f)
    (hname : ∀ frames n own, f frames (.name n own) = []) (scope : Scope) :
    scope.outline.collect f [] =
      scope.visits.flatMap fun v => v.2.opening.flatMap (f (v.1.filterMap Part.frame?)) := by
  rw [collect_outline hf, visits, List.flatMap_assoc]
  apply List.flatMap_congr
  intro c _
  exact Part.collect_eq_visits hf hname [] (.member (.nested c))

theorem wellNested_of_mem_visits {scope : Scope} {v : List Part × Part} (h : v ∈ scope.visits) :
    Frame.WellNested (v.1.filterMap Part.frame?) := by
  obtain ⟨c, -, hv⟩ := List.mem_flatMap.mp h
  exact (Part.descends_of_mem_visits hv).wellNested

/-- **The call edges.**  They are the edges of the parts, one part after the other in source order.
    The read-only traversal comes to the expressions in that same order, and to no others. -/
theorem calls_eq_edges (fields : List FieldSig) (scope : Scope) :
    scope.outline.nodes.filterMap Node.expr? = scope.visits.filterMap (fun v => v.2.expr?) ∧
      (scope.usage fields).calls = scope.visits.flatMap fun v => v.2.edges v.1 := by
  constructor
  · rw [Outline.filterMap_nodes _ [], List.filterMap_eq_flatMap_toList,
      collect_eq_visits Node.thin_expr? fun _ _ _ => rfl]
    simp only [Part.opening_expr?]
  · rw [usage_eq, Outline.usage, collect_eq_visits Node.sparse_calls.toThin fun _ _ _ => rfl]
    apply List.flatMap_congr
    intro v hv
    exact Part.opening_calls (wellNested_of_mem_visits hv) v.2

-- `make` hands its instance to the call of `help`, but not to the one that `run` makes on its own
-- object
example :
    let sig (owner name : String) : MethodSig := ⟨owner, name, [], "int"⟩
    let call (callee : MethodSig) : Stmt := .eval (.resolvedCall none ⟨callee, false⟩ [])
    let desk : ClassDecl := ClassDraft.declare ⟨[], .class, "Desk", none, none, [], [
      .method
        { result := "int", name := "make"
          body := some [.eval (.anonymous "Task" "Desk$1"
            [{ result := "int", name := "run"
               body := some [call (sig "Desk" "help"), call (sig "Desk$1" "own")] }])] }]⟩
    ((single desk).usage []).calls =
      [⟨sig "Desk$1" "run", sig "Desk" "help"⟩, ⟨sig "Desk" "make", sig "Desk" "help"⟩,
        ⟨sig "Desk$1" "run", sig "Desk$1" "own"⟩] := by
  decide

end Scope

end Receiverless
