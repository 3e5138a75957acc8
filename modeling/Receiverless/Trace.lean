/-
  Receiverless/Trace.lean
  =======================
  **Traces of the two walks.**  A trace has one line per visited construct: its
  depth, the kind of construct and a detail.  `Outline.trace` follows the
  outline; `CompilationUnit.rebuildTrace` follows the walk that rebuilds a unit,
  which visits fewer kinds of constructs.
-/
import Receiverless.Outline
import Receiverless.Tree.Rebuild

namespace Receiverless

/-! ### Words for constructs -/

def Literal.tag : Literal → String
  | .int _ => "int"
  | .long _ => "long"
  | .float _ => "float"
  | .double _ => "double"
  | .string _ => "string"
  | .char _ => "char"
  | .bool _ => "bool"
  | .null => "null"

def Expr.tag : Expr → String
  | .literal v => v.tag
  | .name .. => "id"
  | .self .. => "this"
  | .super => "super"
  | .access .. => "access"
  | .call .. => "call"
  | .methodRef .. => "mref"
  | .unary .. => "unary"
  | .binary .. => "binary"
  | .assign .. => "assign"
  | .conditional .. => "cond"
  | .create .. => "new"
  | .index .. => "index"
  | .newArray .. => "newarray"
  | .arrayInit .. => "arrayinit"
  | .cast .. => "cast"
  | .instanceOf .. => "instanceof"
  | .switch .. => "switch"
  | .lambda .. => "lambda"
  | .paren .. => "paren"

def Stmt.tag : Stmt → String
  | .block .. => "block"
  | .locals .. => "local"
  | .eval .. => "expr"
  | .ret .. => "return"
  | .ifElse .. => "if"
  | .whileLoop .. => "while"
  | .doLoop .. => "do"
  | .forLoop .. => "for"
  | .forEach .. => "foreach"
  | .raise .. => "throw"
  | .tryCatch .. => "try"
  | .locked .. => "sync"
  | .switch .. => "switch"
  | .yield .. => "yield"
  | .labelled .. => "label"
  | .check .. => "assert"
  | .localClass .. => "class"
  | .leave .. => "break"
  | .next .. => "continue"
  | .empty => "empty"

def Member.tag : Member → String
  | .field .. => "field"
  | .method .. => "method"
  | .constructor .. => "ctor"
  | .initializer .. => "init"
  | .nested .. => "class"

/-! ### Details -/

/-- A text, or a dash if there is none. -/
def orDash (s : Option String) : String := s.getD "-"

/-- A name and the signature it is resolved to. -/
def resolvedAs (name : String) (signature : Option String) : String :=
  name ++ ":" ++ orDash signature

def boolText (b : Bool) : String := if b then "true" else "false"

def ClassDecl.detail (c : ClassDecl) : String := c.kind.text ++ " " ++ c.name ++ " " ++ c.type

def Method.detail (m : Method) : String := resolvedAs m.name (m.signature.map MethodSig.text)

/-- The kind of construct and the detail of a node. -/
def Node.describe : Node → String × String
  | .unit classes => ("unit", toString classes)
  | .memberClass decl => ("class_decl", decl.detail)
  | .localClass decl => ("local_class", decl.detail)
  | .anonymousBody type => ("anonymous_body", orDash type)
  | .member decl => ("member", decl.tag)
  | .field decl => ("field_decl", " ".intercalate <| decl.declarators.map fun v =>
      resolvedAs v.name (v.signature.map FieldSig.text))
  | .method decl => ("method_decl", decl.detail)
  | .constructor n => ("constructor_decl", n)
  | .initializer isStatic => ("initializer", boolText isStatic)
  | .block statements => ("block", toString statements)
  | .stmt s => ("statement", s.tag)
  | .expr e => ("expression", e.tag)
  | .name n _ => ("identifier", resolvedAs n.text (n.field.map FieldSig.text))
  | .self qualifier => ("this", orDash qualifier)
  | .super => ("super", "")
  | .access n onReceiver => ("field_access", n ++ " receiver=" ++ boolText onReceiver)
  | .call n implicit target =>
    ("method_invocation", n ++ " implicit=" ++ boolText implicit ++ " " ++
      match target with
      | none => "-"
      | some t => t.signature.text ++ " static=" ++ boolText t.isStatic)
  | .methodRef n _ => ("method_reference", n)
  | .create type => ("new_class", type)
  | .lambda params => ("lambda", toString params)

def traceLine (depth : Nat) (kind detail : String) : String :=
  toString depth ++ " " ++ kind ++ " " ++ detail

/-! ### The walk over the outline -/

mutual

def Outline.traceAt (depth : Nat) : Outline → List String
  | .node label children =>
    traceLine depth label.describe.1 label.describe.2 :: traceAllAt (depth + 1) children

def traceAllAt (depth : Nat) : List Outline → List String
  | [] => []
  | o :: os => o.traceAt depth ++ traceAllAt depth os

end

def Outline.trace (o : Outline) : List String := o.traceAt 0

/-! ### The walk that rebuilds -/

/-- An action that knows its depth and writes lines. -/
abbrev TraceM := ReaderT Nat (StateM (List String))

/-- Write a line, then go one level deeper. -/
def TraceM.visit {α : Type} (kind : String) (detail : α → String) (a : α) (walk : TraceM α) :
    TraceM α := fun depth => do
  modify (· ++ [traceLine depth kind (detail a)])
  walk (depth + 1)

def TraceM.hooks : Hooks TraceM where
  unit := TraceM.visit "unit" fun u => toString u.classes.length
  classDecl := TraceM.visit "class_decl" ClassDecl.detail
  member := TraceM.visit "member" Member.tag
  method := TraceM.visit "method_decl" Method.detail
  block := TraceM.visit "block" fun body => toString body.length
  stmt := TraceM.visit "statement" Stmt.tag
  expr := TraceM.visit "expression" Expr.tag

def CompilationUnit.rebuildTrace (u : CompilationUnit) : List String :=
  (((u.rebuild TraceM.hooks).run 0).run []).2

end Receiverless
