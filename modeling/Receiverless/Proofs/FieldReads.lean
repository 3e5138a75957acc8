/-
  Receiverless/Proofs/FieldReads.lean
  ===================================
  **What a method made static may still read.**  A static method has no instance
  whose fields its body could read.  The bodies of the methods that a run makes
  static read none, through all statements, expressions, lambdas and local and
  anonymous classes (`run_static_reads_no_field`).

  The exception are member classes in the body, that is, those that a local or
  anonymous class in it has.  The analysis does not charge what they do to the
  methods around them, so a read in one of them does not keep the method from
  being made static (`hiddenRead_run_keeps_read`).  A body without such reads
  reads no field at any depth.
-/
import Receiverless.Proofs.Attribution
import Receiverless.Proofs.Blanking

namespace Receiverless

namespace CompilationUnit

variable {u : CompilationUnit} {s : Settings} {path : List Nat} {m m' : Method}

theorem isEligible_of_made_static (hs : s.dryRun = false) (hm : u.methodAt? path = some m)
    (hm' : (u.run s).unit.methodAt? path = some m') (hbefore : m.isStatic = false)
    (hafter : m'.isStatic = true) :
    u.analysis.isEligible m = true ∧ m'.signature = m.signature := by
  obtain rfl := eq_restyle_of_methodAt? hm hm'
  refine ⟨?_, m.signature_restyle _⟩
  rcases (Method.isStatic_restyle_style hs).mp hafter with hstatic | helig
  · rw [hbefore] at hstatic
    cases hstatic
  · exact helig

/-- A field read outside of the member classes in its body marks a method. -/
theorem mem_usage_of_readsField {fields : List FieldSig} {σ : MethodSig} {e : Expr}
    (hm : u.methodAt? path = some m) (hσ : m.signature = some σ)
    (hopen : (Part.member (.method m)).Reaches Part.isMemberClass (.expr e))
    (hread : e.ReadsField fields) : σ ∈ (u.usage fields).methods := by
  obtain ⟨c, hc, hholds⟩ := exists_holds_of_methodAt? hm
  change σ ∈ ((Scope.unit u).usage fields).methods
  rw [Scope.mem_methods_iff]
  exact ⟨c, hc, m, hholds, hσ, Or.inl ⟨e, hopen, Or.inl hread⟩⟩

/-- **Static methods read no fields,** except in member classes declared in their bodies: a read in
    such a class is the only way in which the body can still read one. -/
theorem run_static_reads_no_field (s : Settings) (hs : s.dryRun = false) (u : CompilationUnit)
    (path : List Nat) (m m' : Method) (hm : u.methodAt? path = some m)
    (hm' : (u.run s).unit.methodAt? path = some m') (hbefore : m.isStatic = false)
    (hafter : m'.isStatic = true) :
    (∀ e, (Part.member (.method m')).Reaches Part.isMemberClass (.expr e) →
        ¬ e.ReadsField u.instanceFields) ∧
      ((∀ e, (Part.member (.method m')).Holds (.expr e) → ¬ e.ReadsField u.instanceFields) ↔
        ∀ c, (Part.member (.method m')).Holds (.member (.nested c)) →
          ∀ e, (Part.member (.nested c)).Holds (.expr e) → ¬ e.ReadsField u.instanceFields) := by
  obtain ⟨helig, hsig⟩ := isEligible_of_made_static hs hm hm' hbefore hafter
  obtain ⟨σ, hσ, hunused, -⟩ := Method.isEligible_iff.mp helig
  have houtside : ∀ e, (Part.member (.method m')).Reaches Part.isMemberClass (.expr e) →
      ¬ e.ReadsField u.instanceFields := by
    intro e hopen hread
    have hmarked := mem_usage_of_readsField hm' (hsig.trans hσ) hopen hread
    rw [usage_run] at hmarked
    exact hunused (subset_callClosure _ _ _ _ hmarked)
  refine ⟨houtside, ?_, ?_⟩
  · intro hall c hc e he
    exact hall e (hc.trans he)
  · intro hclasses e he
    rcases he.reaches_or with hopen | ⟨x, hx, hheld, hin⟩
    · exact houtside e hopen
    · obtain ⟨c, rfl⟩ := Part.exists_eq_of_isMemberClass hx
      exact hclasses c hheld e hin

/-! ### A read that stays -/

/-- `class L { class M { int g() { return x; } } }` -/
def hiddenReader : ClassDecl :=
  ClassDraft.declare ⟨[], .class, "L", some "A$L", none, [], [.nested
    ⟨[], .class, "M", some "A$L$M", none, [], [.method
      { result := "int", name := "g"
        body := some [.ret (some (.fieldName "x" ⟨"A", "x", "int"⟩))] }]⟩]⟩

def hiddenReadMethod (keywords : List Keyword) : Method :=
  MethodDraft.declareIn "A"
    { keywords, result := "int", name := "f"
      body := some [.localClass hiddenReader, .ret (some (.literal (.int 0)))] }

/-- `class A { int x; private int f() … }` -/
def hiddenRead : CompilationUnit where
  classes := [ClassDraft.declare ⟨[], .class, "A", none, none, [], [
    .field (.named "int" "x"), .ready (.method (hiddenReadMethod [.private]))]⟩]

theorem hiddenRead_made_static :
    hiddenRead.methodAt? [0, 1] = some (hiddenReadMethod [.private]) ∧
      (hiddenRead.run {}).unit.methodAt? [0, 1] = some (hiddenReadMethod [.private, .static]) := by
  exact ⟨rfl, rfl⟩

theorem hiddenRead_static_reads_no_field :
    hiddenRead.methodAt? [0, 1] = some (hiddenReadMethod [.private]) ∧
      (hiddenRead.run {}).unit.methodAt? [0, 1] = some (hiddenReadMethod [.private, .static]) ∧
      (hiddenReadMethod [.private]).isStatic = false ∧
      (hiddenReadMethod [.private, .static]).isStatic = true ∧
      ∀ e, (Part.member (.method (hiddenReadMethod [.private, .static]))).Reaches
        Part.isMemberClass (.expr e) → ¬ e.ReadsField hiddenRead.instanceFields := by
  obtain ⟨hbefore, hafter⟩ := hiddenRead_made_static
  have h := run_static_reads_no_field {} rfl hiddenRead _ _ _ hbefore hafter rfl rfl
  exact ⟨hbefore, hafter, rfl, rfl, h.1⟩

theorem hiddenRead_holds_read (keywords : List Keyword) :
    (Part.member (.method (hiddenReadMethod keywords))).Holds
      (.expr (.fieldName "x" ⟨"A", "x", "int"⟩)) := by
  have hlocal : (Part.member (.method (hiddenReadMethod keywords))).Holds
      (.stmt (.localClass hiddenReader)) := Part.holds_of_mem_children List.mem_cons_self
  have hmember := Part.Reaches.tail hlocal rfl List.mem_cons_self
  have hmethod := hmember.tail rfl List.mem_cons_self
  have hreturn := hmethod.tail rfl List.mem_cons_self
  exact hreturn.tail rfl List.mem_cons_self

/-- The run makes `f` static although a member class in its body reads the field. -/
theorem hiddenRead_run_keeps_read :
    ¬ ∀ path m m', hiddenRead.methodAt? path = some m →
      (hiddenRead.run {}).unit.methodAt? path = some m' → m.isStatic = false →
      m'.isStatic = true → ∀ e, (Part.member (.method m')).Holds (.expr e) →
        ¬ e.ReadsField hiddenRead.instanceFields := by
  intro h
  obtain ⟨hbefore, hafter⟩ := hiddenRead_made_static
  refine h _ _ _ hbefore hafter rfl rfl _ (hiddenRead_holds_read _) ?_
  exact ⟨_, List.mem_cons_self, rfl⟩

end CompilationUnit

end Receiverless
