import AsyncActions.Tree.Literal

/-!
# Functions in a tree

One view of every construct that defines a function: declarations, expressions, arrows and
methods. Of the body only the first statement counts.
-/

namespace AsyncActions

inductive FunctionKind where
  | declaration
  | expression
  | arrow
  | method
  deriving DecidableEq, Repr

namespace FunctionKind

def name : FunctionKind → String
  | declaration => "declaration"
  | expression => "expression"
  | arrow => "arrow"
  | method => "method"

def ofName? (s : String) : Option FunctionKind :=
  [declaration, expression, arrow, method].find? (·.name = s)

def ofType? : String → Option FunctionKind
  | "function_declaration" => some declaration
  | "generator_function_declaration" => some declaration
  | "function_expression" => some expression
  | "generator_function" => some expression
  | "arrow_function" => some arrow
  | "method_definition" => some method
  | _ => none

end FunctionKind

/-- A statement as far as directives need it: `value` is the static text of a string that stands
as a statement. -/
structure Statement where
  type : String
  expressionType : Option String
  value : Option Text
  deriving DecidableEq

structure Block where
  first : Option Statement
  deriving DecidableEq

/-- A function. `body` is missing for an arrow whose body is an expression. `insertByte` and
`insertPoint` say where `async` belongs if that is not where the function starts. -/
structure Function where
  kind : FunctionKind
  isAsync : Bool
  isGenerator : Bool
  isAccessor : Bool
  name : Option String
  body : Option Block
  startByte : Int
  endByte : Int
  startPoint : Point
  endPoint : Point
  insertByte : Option Int
  insertPoint : Option Point
  deriving DecidableEq

namespace Function

def asyncByte (f : Function) : Int := f.insertByte.getD f.startByte

def asyncPoint (f : Function) : Point := f.insertPoint.getD f.startPoint

end Function

namespace Node

def isComment (n : Node) : Bool := n.type = "comment" || n.type = "html_comment"

/-- The first named child that is no comment. -/
def firstStatement? (n : Node) : Option Node :=
  n.namedChildren.find? fun c => !c.isComment

def statement (source : Bytes) (n : Node) : Statement :=
  if n.type = "expression_statement" then
    match n.firstStatement? with
    | some e => ⟨n.type, some e.type, e.literalValue? source⟩
    | none => ⟨n.type, none, none⟩
  else ⟨n.type, none, none⟩

def block? (source : Bytes) (n : Node) : Option Block :=
  if n.type = "statement_block" then
    some ⟨n.firstStatement?.map (statement source)⟩
  else none

/-- The kind of function that the node defines. Keywords define none. -/
def functionKind? (n : Node) : Option FunctionKind :=
  if n.named then FunctionKind.ofType? n.type else none

def isFunction (n : Node) : Bool := n.functionKind?.isSome

/-- The name that a key gives to its method. Literals and computed keys give none. -/
def methodName? (source : Bytes) (key : Node) : Option String :=
  if key.type = "property_identifier" ∨ key.type = "private_property_identifier" then
    some (String.ofList (key.text source))
  else none

def function? (source : Bytes) (n : Node) : Option Function :=
  n.functionKind?.map fun kind =>
    let key := n.child? "name"
    { kind
      isAsync := n.hasToken ["async"]
      isGenerator :=
        n.type = "generator_function_declaration" || n.type = "generator_function" ||
          n.hasToken ["*"]
      isAccessor := kind = .method && n.hasToken ["get", "set"]
      name :=
        if kind = .method then key.bind (methodName? source)
        else key.map fun k => String.ofList (k.text source)
      body := (n.child? "body").bind (block? source)
      startByte := n.startByte
      endByte := n.endByte
      startPoint := n.startPoint
      endPoint := n.endPoint
      insertByte := if kind = .method then key.map startByte else none
      insertPoint := if kind = .method then key.map startPoint else none }

/-- The functions of a tree in document order. -/
def functions (source : Bytes) (root : Node) : List Function :=
  root.preorder.filterMap (function? source)

mutual

def functionCount : Node → Nat
  | mk t n f e cs => (if (mk t n f e cs).isFunction then 1 else 0) + functionCountAll cs

def functionCountAll : List Node → Nat
  | [] => 0
  | c :: cs => c.functionCount + functionCountAll cs

end

end Node

end AsyncActions
