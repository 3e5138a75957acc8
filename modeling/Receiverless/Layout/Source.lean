/-
  Receiverless/Layout/Source.lean
  ===============================
  **Trees as source.**  Every construct has one layout at a given depth.  Class
  members are separated by blank lines; modifier lists are the only place where
  stored white space shows.

  A statement has two forms: `Stmt.inline` is the statement without margin and
  line end, as it stands behind a label, an arrow or the keyword of a control
  statement, and `Stmt.lines` is a list of statements on lines of their own.
-/
import Receiverless.Tree.Basic
import Receiverless.Layout.Basic
import Receiverless.Layout.Literal
import Receiverless.Text.Blank

namespace Receiverless

open Layout (text separated line braced body afterBody)

/-! ### Parts without inner structure -/

/-- A modifier list and the space behind it. -/
def Modifiers.layout (ms : Modifiers) : Layout :=
  if ms.isEmpty then [] else text (ms.render ++ " ")

/-- The same without the blanks in front of it. -/
def Modifiers.layoutTrimmed (ms : Modifiers) : Layout :=
  if ms.isEmpty then [] else text (Text.dropBlanks ms.render ++ " ")

def commaList (ts : List String) : String := ", ".intercalate ts

def Param.layout (p : Param) : Layout :=
  p.modifiers.layout ++ text (p.type ++ (if p.varargs then "..." else "") ++ " " ++ p.name)

def paramList (ps : List Param) : Layout :=
  text "(" ++ separated ", " (ps.map Param.layout) ++ text ")"

def throwsClause (ts : List String) : Layout :=
  if ts.isEmpty then [] else text (" throws " ++ commaList ts)

def LambdaParam.text (p : LambdaParam) : String :=
  match p.type with
  | none => p.name
  | some t => t ++ " " ++ p.name

/-- A single parameter without a type needs no parentheses. -/
def lambdaParams : List LambdaParam → String
  | [⟨name, none⟩] => name
  | ps => "(" ++ commaList (ps.map LambdaParam.text) ++ ")"

def jump (keyword : String) (label : Option String) : Layout :=
  match label with
  | none => text (keyword ++ ";")
  | some l => text (keyword ++ " " ++ l ++ ";")

/-- The head of a class declaration behind its modifiers. -/
def ClassDecl.head (c : ClassDecl) : String :=
  let listWord := match c.kind with
    | .interface => " extends "
    | _ => " implements "
  c.kind.text ++ " " ++ c.name ++
    (match c.superclass with
      | none => ""
      | some t => " extends " ++ t) ++
    (if c.interfaces.isEmpty then "" else listWord ++ commaList c.interfaces) ++ " "

/-- The head of a method declaration behind its modifiers, up to its body. -/
def Method.head (m : Method) : Layout :=
  text ((if m.typeParams.isEmpty then "" else "<" ++ commaList m.typeParams ++ "> ") ++
      m.result ++ " " ++ m.name) ++
    paramList m.params ++ throwsClause m.throws

def Stmt.isBlock : Stmt → Bool
  | .block _ => true
  | _ => false

def Stmt.isConditional : Stmt → Bool
  | .ifElse _ _ _ => true
  | _ => false

/-- Members with blank lines between them. -/
def spacedMembers : List Layout → Layout
  | [] => []
  | [l] => l
  | l :: ls => l ++ .newline :: spacedMembers ls

/-- What stands in front of the arrow or colon of a switch group. -/
def caseHead (labels : List Layout) : Layout :=
  if labels.isEmpty then text "default" else text "case " ++ separated ", " labels

/-! ### Constructs -/

mutual

def Expr.layout (depth : Nat) : Expr → Layout
  | .literal v => text v.text
  | .name n => text n.text
  | .self none _ => text "this"
  | .self (some q) _ => text (q ++ ".this")
  | .super => text "super"
  | .access target n _ => target.layout depth ++ text ("." ++ n.text)
  | .call none n args _ _ =>
    text (n ++ "(") ++ separated ", " (exprLayouts depth args) ++ text ")"
  | .call (some receiver) n args _ _ =>
    receiver.layout depth ++ text ("." ++ n ++ "(") ++
      separated ", " (exprLayouts depth args) ++ text ")"
  | .methodRef target n _ => target.layout depth ++ text ("::" ++ n)
  | .unary op operand => text op.before ++ operand.layout depth ++ text op.after
  | .binary op left right =>
    left.layout depth ++ text (" " ++ op.text ++ " ") ++ right.layout depth
  | .assign op target value =>
    target.layout depth ++ text (" " ++ op.text ++ " ") ++ value.layout depth
  | .conditional condition yes no =>
    condition.layout depth ++ text " ? " ++ yes.layout depth ++ text " : " ++ no.layout depth
  | .create type args none _ =>
    text ("new " ++ type ++ "(") ++ separated ", " (exprLayouts depth args) ++ text ")"
  | .create type args (some ⟨_, members⟩) _ =>
    text ("new " ++ type ++ "(") ++ separated ", " (exprLayouts depth args) ++ text ") " ++
      braced depth (spacedMembers (memberLayouts (depth + 1) members))
  | .index array position =>
    array.layout depth ++ text "[" ++ position.layout depth ++ text "]"
  | .newArray element dimensions extra none =>
    text ("new " ++ element) ++ dimensionsLayout depth dimensions ++
      text (String.join (List.replicate extra "[]"))
  | .newArray element dimensions extra (some elements) =>
    text ("new " ++ element) ++ dimensionsLayout depth dimensions ++
      text (String.join (List.replicate extra "[]") ++ " \x7b") ++
      separated ", " (exprLayouts depth elements) ++ text "\x7d"
  | .arrayInit elements => text "\x7b" ++ separated ", " (exprLayouts depth elements) ++ text "\x7d"
  | .cast type operand => text ("(" ++ type ++ ") ") ++ operand.layout depth
  | .instanceOf operand type none => operand.layout depth ++ text (" instanceof " ++ type)
  | .instanceOf operand type (some b) =>
    operand.layout depth ++ text (" instanceof " ++ type ++ " " ++ b)
  | .switch selector cases =>
    text "switch (" ++ selector.layout depth ++ text ") " ++
      braced depth (caseLines (depth + 1) cases)
  | .lambda params (.expr value) _ =>
    text (lambdaParams params ++ " -> ") ++ value.layout depth
  | .lambda params (.block statements) _ =>
    text (lambdaParams params ++ " -> ") ++ braced depth (stmtLines (depth + 1) statements)
  | .paren inner => text "(" ++ inner.layout depth ++ text ")"

def exprLayouts (depth : Nat) : List Expr → List Layout
  | [] => []
  | e :: es => e.layout depth :: exprLayouts depth es

/-- Sized dimensions, each in brackets. -/
def dimensionsLayout (depth : Nat) : List Expr → Layout
  | [] => []
  | e :: es => text "[" ++ e.layout depth ++ text "]" ++ dimensionsLayout depth es

/-- The groups of a switch.  An arrow group shows its first statement, a colon group has its
    statements one level deeper. -/
def caseLines (depth : Nat) : List Case → Layout
  | [] => []
  | ⟨labels, true, []⟩ :: rest =>
    line depth (caseHead (exprLayouts depth labels) ++ text " -> ") ++ caseLines depth rest
  | ⟨labels, true, s :: _⟩ :: rest =>
    line depth (caseHead (exprLayouts depth labels) ++ text " -> " ++ s.inline depth) ++
      caseLines depth rest
  | ⟨labels, false, statements⟩ :: rest =>
    line depth (caseHead (exprLayouts depth labels) ++ text ":") ++
      stmtLines (depth + 1) statements ++ caseLines depth rest

/-- Variables with their initial values. -/
def declaratorLayouts (depth : Nat) : List Declarator → List Layout
  | [] => []
  | ⟨n, none, _, _⟩ :: rest => text n :: declaratorLayouts depth rest
  | ⟨n, some init, _, _⟩ :: rest =>
    (text (n ++ " = ") ++ init.layout depth) :: declaratorLayouts depth rest

def resourceLayouts (depth : Nat) : List Resource → List Layout
  | [] => []
  | ⟨none, value⟩ :: rest => value.layout depth :: resourceLayouts depth rest
  | ⟨some (type, n), value⟩ :: rest =>
    (text (type ++ " " ++ n ++ " = ") ++ value.layout depth) :: resourceLayouts depth rest

def catchesLayout (depth : Nat) : List CatchClause → Layout
  | [] => []
  | ⟨param, statements⟩ :: rest =>
    text " catch (" ++ param.layout ++ text ") " ++
      braced depth (stmtLines (depth + 1) statements) ++ catchesLayout depth rest

/-- The first part of a for loop: declarations and expressions without their semicolon. -/
def forInitLayouts (depth : Nat) : List Stmt → List Layout
  | [] => []
  | .locals modifiers type declarators :: rest =>
    (modifiers.layout ++ text (type ++ " ") ++
      separated ", " (declaratorLayouts depth declarators)) :: forInitLayouts depth rest
  | .eval value :: rest => value.layout depth :: forInitLayouts depth rest
  | s :: rest => s.inline depth :: forInitLayouts depth rest

/-- A statement without margin and line end. -/
def Stmt.inline (depth : Nat) : Stmt → Layout
  | .block statements => braced depth (stmtLines (depth + 1) statements)
  | .locals modifiers type declarators =>
    modifiers.layout ++ text (type ++ " ") ++
      separated ", " (declaratorLayouts depth declarators) ++ text ";"
  | .eval value => value.layout depth ++ text ";"
  | .ret none => text "return;"
  | .ret (some value) => text "return " ++ value.layout depth ++ text ";"
  | .ifElse condition yes none =>
    text "if (" ++ condition.layout depth ++ text ") " ++
      body yes.isBlock (fun d => yes.inline d) depth
  | .ifElse condition yes (some no) =>
    text "if (" ++ condition.layout depth ++ text ") " ++
      body yes.isBlock (fun d => yes.inline d) depth ++ afterBody yes.isBlock depth ++
      text "else " ++ body (no.isBlock || no.isConditional) (fun d => no.inline d) depth
  | .whileLoop condition inner =>
    text "while (" ++ condition.layout depth ++ text ") " ++
      body inner.isBlock (fun d => inner.inline d) depth
  | .doLoop inner condition =>
    text "do " ++ body inner.isBlock (fun d => inner.inline d) depth ++
      afterBody inner.isBlock depth ++ text "while (" ++ condition.layout depth ++ text ");"
  | .forLoop init condition update inner =>
    text "for (" ++ separated ", " (forInitLayouts depth init) ++ text ";" ++
      (match condition with
        | none => []
        | some e => text " " ++ e.layout depth) ++
      text (if update.isEmpty then ";" else "; ") ++ separated ", " (exprLayouts depth update) ++
      text ") " ++ body inner.isBlock (fun d => inner.inline d) depth
  | .forEach param iterable inner =>
    text "for (" ++ param.layout ++ text " : " ++ iterable.layout depth ++ text ") " ++
      body inner.isBlock (fun d => inner.inline d) depth
  | .raise value => text "throw " ++ value.layout depth ++ text ";"
  | .tryCatch resources statements catches final =>
    text "try " ++
      (if resources.isEmpty then []
        else text "(" ++ separated "; " (resourceLayouts depth resources) ++ text ") ") ++
      braced depth (stmtLines (depth + 1) statements) ++ catchesLayout depth catches ++
      (match final with
        | none => []
        | some rest => text " finally " ++ braced depth (stmtLines (depth + 1) rest))
  | .locked lock statements =>
    text "synchronized (" ++ lock.layout depth ++ text ") " ++
      braced depth (stmtLines (depth + 1) statements)
  | .switch selector cases =>
    text "switch (" ++ selector.layout depth ++ text ") " ++
      braced depth (caseLines (depth + 1) cases)
  | .yield value => text "yield " ++ value.layout depth ++ text ";"
  | .labelled label inner => text (label ++ ": ") ++ inner.inline depth
  | .check condition none => text "assert " ++ condition.layout depth ++ text ";"
  | .check condition (some message) =>
    text "assert " ++ condition.layout depth ++ text " : " ++ message.layout depth ++ text ";"
  | .localClass decl => decl.inline depth
  | .leave label => jump "break" label
  | .next label => jump "continue" label
  | .empty => text ";"

/-- Statements on lines of their own. -/
def stmtLines (depth : Nat) : List Stmt → Layout
  | [] => []
  | .localClass decl :: rest => decl.layout depth ++ stmtLines depth rest
  | s :: rest => line depth (s.inline depth) ++ stmtLines depth rest

def Member.layout (depth : Nat) : Member → Layout
  | .field ⟨modifiers, type, declarators, _⟩ =>
    line depth (modifiers.layout ++ text (type ++ " ") ++
      separated ", " (declaratorLayouts depth declarators) ++ text ";")
  | .method decl => decl.layout depth
  | .constructor ⟨modifiers, n, params, throws, statements, _⟩ =>
    line depth (modifiers.layout ++ text n ++ paramList params ++ throwsClause throws ++ text " " ++
      braced depth (stmtLines (depth + 1) statements))
  | .initializer isStatic statements _ =>
    line depth (text (if isStatic then "static " else "") ++
      braced depth (stmtLines (depth + 1) statements))
  | .nested decl => decl.layout depth

def memberLayouts (depth : Nat) : List Member → List Layout
  | [] => []
  | m :: ms => m.layout depth :: memberLayouts depth ms

def Method.layout (depth : Nat) : Method → Layout
  | m@⟨modifiers, _, _, _, _, _, none, _, _⟩ =>
    line depth (modifiers.layout ++ m.head ++ text ";")
  | m@⟨modifiers, _, _, _, _, _, some statements, _, _⟩ =>
    line depth (modifiers.layout ++ m.head ++ text " " ++
      braced depth (stmtLines (depth + 1) statements))

def ClassDecl.layout (depth : Nat) : ClassDecl → Layout
  | c@⟨modifiers, _, _, _, _, _, members, _⟩ =>
    line depth (modifiers.layout ++ text c.head ++
      braced depth (spacedMembers (memberLayouts (depth + 1) members)))

/-- A class behind other text on its line.  It starts with its first character that is not blank. -/
def ClassDecl.inline (depth : Nat) : ClassDecl → Layout
  | c@⟨modifiers, _, _, _, _, _, members, _⟩ =>
    modifiers.layoutTrimmed ++ text c.head ++
      braced depth (spacedMembers (memberLayouts (depth + 1) members))

end

/-- Package and imports come first; classes are separated by blank lines. -/
def CompilationUnit.layout (u : CompilationUnit) : Layout :=
  (match u.package with
    | none => []
    | some p => [.text ("package " ++ p ++ ";"), .newline, .newline]) ++
    (if u.imports.isEmpty then []
      else u.imports.flatMap (fun i => [.text ("import " ++ i ++ ";"), .newline]) ++ [.newline]) ++
    spacedMembers (u.classes.map (ClassDecl.layout 0))

end Receiverless
