import AsyncActions.Grammar.Class
import AsyncActions.Grammar.Element

/-!
# Expressions

Operators by precedence, calls and members, and what an expression begins with.
-/

namespace AsyncActions.Grammar

def expressions (rules : Rules) (context : Context) : Read Node := do
  let start ← tokenStart
  let first ← rules (.expression context)
  let rest ← many do
    let comma ← operatorMark ","
    let value ← rules (.expression context)
    return [comma, value]
  if rest.isEmpty then pure first
  else build "sequence_expression" start (first :: rest.flatten)

def parenthesized (rules : Rules) : Read Node := do
  let start ← tokenStart
  let first ← mark "("
  let inner ← expressions rules enclosed
  let type ← maybe (ascription rules)
  let last ← closer ")"
  build "parenthesized_expression" start (first :: inner :: type ++ [last])

def array (rules : Rules) : Read Node := do
  let start ← tokenStart
  let first ← mark "["
  let item := (fun n => [n]) <$> (spread rules <|> rules (.expression enclosed))
  let rest ← commaList item (closer "]")
  build "array" start (first :: rest)

def arguments (rules : Rules) : Read Node := do
  let start ← tokenStart
  let first ← mark "("
  let item := (fun n => [n]) <$> (spread rules <|> rules (.expression enclosed))
  let rest ← commaList item (closer ")")
  build "arguments" start (first :: rest)

def templateLiteral (rules : Rules) : Read Node := template (expressions rules enclosed)

/-- What begins with a parenthesis: an arrow function if an arrow or a return type follows. -/
def afterParenthesis (rules : Rules) (context : Context) : Read Node := do
  let before ← get
  match ← optional (parenthesized rules) with
  | none => arrowFunction rules context
  | some inner =>
    let typed := (← read).language.hasTypes && !context.colonEnds && (← isMark ":")
    if typed || (← isMark "=>") then
      (do set before; arrowFunction rules context) <|> pure inner
    else pure inner

def importExpression : Read Node := do
  let start ← tokenStart
  let import_ ← word "import"
  match ← optional (do let dot ← mark "."; return [dot, ← word "meta"]) with
  | some path => build "meta_property" start (import_ :: path)
  | none =>
    ensure ((← isMark "(") || (← isMark "."))
    build "import" start []

def classExpression (rules : Rules) : Read Node := do
  let start ← tokenStart
  let decorators ← many ((·.withField "decorator") <$> decorator rules)
  classFrom rules start decorators fun _ => "class"

def constants : List String := ["this", "super", "true", "false", "null", "undefined"]

def typeAssertion (rules : Rules) (context : Context) : Read Node := do
  let start ← tokenStart
  let arguments ← typeArguments rules
  let value ← rules (.operand context)
  build "type_assertion" start [arguments, value]

def afterAngle (rules : Rules) (context : Context) : Read Node := do
  let language := (← read).language
  if language.hasElements then
    (do ensure language.hasTypes; arrowFunction rules context) <|> rules .element
  else arrowFunction rules context <|> typeAssertion rules context

def primary (rules : Rules) (context : Context) : Read Node := do
  match ← next with
  | .number => number
  | .string => string
  | .template => templateLiteral rules
  | .privateName => privateName
  | .word "function" => functionExpression rules context
  | .word "class" => classExpression rules
  | .word "import" => importExpression
  | .word "async" =>
    functionExpression rules context <|> arrowFunction rules context <|> identifier "identifier"
  | .word w =>
    if constants.contains w then
      (do ensure !(reserved.contains w); arrowFunction rules context) <|> anyWord w
    else arrowFunction rules context <|> identifier "identifier"
  | .mark "(" => afterParenthesis rules context
  | .mark "[" => array rules
  | .mark "<" => afterAngle rules context
  | .mark "@" => classExpression rules
  | .mark "/" | .mark "/=" => regex
  | .mark m => if m == openBrace then object rules else failure
  | _ => failure

/-! ## Members, calls and what follows a value -/

def memberName : Read Node := privateName <|> anyWord "property_identifier"

def subscript (rules : Rules) (start : Nat) (left : List Node) : Read Node := do
  let first ← mark "["
  let index ← expressions rules enclosed
  let last ← mark "]"
  build "subscript_expression" start (left ++ [first, index, last])

def call (rules : Rules) (start : Nat) (left : List Node) : Read Node := do
  let arguments ← arguments rules <|> templateLiteral rules
  build "call_expression" start (left ++ [arguments])

/-- After a chain mark: arguments, an index or a name. -/
def chained (rules : Rules) (start : Nat) (left : Node) : Read Node := do
  let chain ← mark "?."
  match ← next with
  | .mark "(" => call rules start [left, chain]
  | .mark "[" => subscript rules start [left, chain]
  | .template => call rules start [left, chain]
  | .mark "<" => do
    let types ← typeArguments rules
    call rules start [left, chain, types]
  | _ =>
    let name ← memberName
    build "member_expression" start [left, chain, name]

/-- Type arguments bind to a call, or stand alone where no operand follows them. -/
def instantiated (rules : Rules) (start : Nat) (left : Node) : Read Node := do
  let types ← typeArguments rules
  match ← next with
  | .mark "(" => call rules start [left, types]
  | .template => call rules start [left, types]
  | .finish => build "instantiation_expression" start [left, types]
  | .mark m =>
    ensure ([")", "]", ",", ";", ":", ".", "?.", "=", "==", "===", "!=", "!==", "&&", "||", "??",
      "?", "|", "&", "^", closeBrace].contains m)
    build "instantiation_expression" start [left, types]
  | _ => do
    ensure (!(← onSameLine))
    build "instantiation_expression" start [left, types]

/-- One more member, index, call or suffix. -/
def link (rules : Rules) (context : Context) (start : Nat) (left : Node) : Read (Option Node) := do
  match ← operatorNext context with
  | .mark "." => optional do
    let dot ← mark "."
    let name ← memberName
    build "member_expression" start [left.withField "object", dot, name.withField "property"]
  | .mark "?." => optional (chained rules start left)
  | .mark "[" => optional (subscript rules start [left])
  | .mark "(" => optional (call rules start [left])
  | .template => optional (call rules start [left])
  | .mark "!" => optional do
    ensure (← read).language.hasTypes
    let bang ← mark "!"
    build "non_null_expression" start [left, bang]
  | .mark "<" => optional (instantiated rules start left)
  | .mark "++" => optional do
    let sign ← operatorMark "++"
    build "update_expression" start [left, sign]
  | .mark "--" => optional do
    let sign ← operatorMark "--"
    build "update_expression" start [left, sign]
  | _ => pure none

/-- A link that is no call, for the class that is instantiated. -/
def memberLink (rules : Rules) (start : Nat) (left : Node) : Read (Option Node) := do
  match ← next with
  | .mark "." | .mark "[" | .template | .mark "!" => link rules enclosed start left
  | _ => pure none

def newExpression (rules : Rules) (context : Context) : Read Node := do
  let start ← tokenStart
  let new_ ← word "new"
  match ← optional (do let dot ← mark "."; return [dot, ← word "target"]) with
  | some path => build "meta_property" start (new_ :: path)
  | none =>
    let inner ← tokenStart
    let callee ← if ← isWord "new" then rules (.operand context) else
      grow (memberLink rules inner) (← primary rules context)
    let types ← optional (do
      let types ← typeArguments rules
      ensure (← isMark "(")
      return [types])
    let args ← match ← operatorNext context with
      | .mark "(" => maybe (arguments rules)
      | _ => pure []
    build "new_expression" start (new_ :: callee :: types.getD [] ++ args)

/-! ## Operators -/

def augmentedAssignments : List String :=
  ["+=", "-=", "*=", "/=", "%=", "^=", "&=", "|=", ">>=", ">>>=", "<<=", "**=", "&&=", "||=", "??="]

def assignable : List String :=
  ["identifier", "member_expression", "subscript_expression", "parenthesized_expression", "object",
   "array", "non_null_expression", "undefined"]

/-- An assignment to `left`, or `left` itself. -/
def assigned (rules : Rules) (context : Context) (start : Nat) (left : Node) : Read Node := do
  match ← operatorNext context with
  | .mark "=" =>
    ensure (assignable.contains left.type)
    let equals ← mark "="
    let value ← rules (.expression context)
    build "assignment_expression" start [left.withField "left", equals, value.withField "right"]
  | .mark m =>
    if augmentedAssignments.contains m && assignable.contains left.type then
      let operator ← mark m
      let value ← rules (.expression context)
      build "augmented_assignment_expression" start
        [left.withField "left", operator, value.withField "right"]
    else pure left
  | _ => pure left

def prefixed (rules : Rules) (context : Context) (type : String) (operator : Read Node) :
    Read Node := do
  let start ← tokenStart
  let operator ← operator
  let value ← rules (.operand context)
  build type start [operator, value]

def yieldExpression (rules : Rules) (context : Context) : Read Node := do
  let start ← tokenStart
  let yield_ ← word "yield"
  let bare ← if context.lineEnds then semicolonHere true else pure false
  let value ← if bare then pure none else optional do
    let star ← maybe (mark "*")
    let value ← rules (.expression context)
    return star ++ [value]
  build "yield_expression" start (yield_ :: value.getD [])

/-- Before parentheses and templates `await` reads as the name of what is called. -/
def awaitIsName : Read Bool :=
  lookAhead do
    let _ ← word "await"
    return !(← read).language.hasTypes && ((← isMark "(") || (← next) == .template)

def operand (rules : Rules) (context : Context) : Read Node := do
  let start ← tokenStart
  let value : Read Node := do
    let first ← if ← isWord "new" then newExpression rules context else primary rules context
    assigned rules context start (← grow (link rules context start) first)
  match ← next with
  | .mark m =>
    if ["!", "~", "-", "+"].contains m then
      prefixed rules context "unary_expression" (mark m)
    else if ["++", "--"].contains m then prefixed rules context "update_expression" (mark m)
    else value
  | .word w =>
    if ["typeof", "void", "delete"].contains w then
      prefixed rules context "unary_expression" (word w)
    else if w == "await" then
      if ← awaitIsName then value else prefixed rules context "await_expression" (word w) <|> value
    else if w == "yield" then (do
      ensure !(← lookAhead (do let _ ← word w; isMark "=>"))
      yieldExpression rules context) <|> value
    else value
  | _ => value

def precedence? (language : Language) : Lexeme → Option Nat
  | .mark "??" => some 1
  | .mark "||" => some 2
  | .mark "&&" => some 3
  | .mark "|" => some 4
  | .mark "^" => some 5
  | .mark "&" => some 6
  | .mark "==" | .mark "!=" | .mark "===" | .mark "!==" => some 7
  | .mark "<" | .mark ">" | .mark "<=" | .mark ">=" => some 8
  | .word "in" | .word "instanceof" => some 8
  | .word "as" | .word "satisfies" => if language.hasTypes then some 8 else none
  | .mark "<<" | .mark ">>" | .mark ">>>" => some 9
  | .mark "+" | .mark "-" => some 10
  | .mark "*" | .mark "/" | .mark "%" => some 11
  | .mark "**" => some 12
  | _ => none

def castTypes : List (String × String) :=
  [("as", "as_expression"), ("satisfies", "satisfies_expression")]

/-- `left` with one more operator that binds at least so tightly. -/
def binaryStep (rules : Rules) (context : Context) (least : Nat) (start : Nat) (left : Node) :
    Read (Option Node) := do
  let operator ← operatorNext context
  match precedence? (← read).language operator with
  | none => pure none
  | some level =>
    if level < least then pure none
    else optional do
      match operator with
      | .mark m =>
        let operator ← operatorMark m
        let right ← rules (.binary context (if m == "**" then level else level + 1))
        build "binary_expression" start [left.withField "left", operator, right.withField "right"]
      | .word w =>
        let operator ← word w
        match castTypes.lookup w with
        | some type =>
          let right ← word "const" <|> rules .type
          build type start [left, operator, right]
        | none =>
          let right ← rules (.binary context (level + 1))
          build "binary_expression" start [left.withField "left", operator, right.withField "right"]
      | _ => failure

def binary (rules : Rules) (context : Context) (least : Nat) : Read Node := do
  let start ← tokenStart
  grow (binaryStep rules context least start) (← rules (.operand context))

/-- The two branches of a conditional. Where types are, a colon after parentheses may belong to
a return type: it does if the rest can then be read. -/
def branches (rules : Rules) (context : Context) : Read (List Node) := do
  let from_ (colonEnds : Bool) : Read (List Node) := do
    let yes ← rules (.expression ⟨false, colonEnds⟩)
    let colon ← mark ":"
    return [yes.withField "consequence", colon]
  let first ← if (← read).language.hasTypes then from_ false <|> from_ true else from_ false
  let no ← rules (.expression context)
  return first ++ [no.withField "alternative"]

def expression (rules : Rules) (context : Context) : Read Node := do
  let start ← tokenStart
  let condition ← rules (.binary context 1)
  match ← operatorNext context with
  | .mark "?" =>
    let conditional ← optional do
      let question ← mark "?"
      let parts ← branches rules context
      build "ternary_expression" start (condition.withField "condition" :: question :: parts)
    return conditional.getD condition
  | _ => pure condition

end AsyncActions.Grammar
