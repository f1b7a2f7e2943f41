import AsyncActions.Grammar.Literal

/-!
# Patterns and parameters

What a declaration, a parameter or a caught error binds. Default values are expressions and may
hold functions.
-/

namespace AsyncActions.Grammar

/-- A type after a colon, where the language has types. -/
def ascription (rules : Rules) : Read Node := do
  ensure (← read).language.hasTypes
  let start ← tokenStart
  let colon ← mark ":"
  let type ← rules .type
  build "type_annotation" start [colon, type]

def initializer (rules : Rules) (context : Context) : Read (List Node) := do
  let equals ← mark "="
  let value ← rules (.expression context)
  return [equals, value.withField "value"]

def withDefault (rules : Rules) (item : Read Node) : Read Node := do
  let start ← tokenStart
  let left ← item
  match ← optional (initializer rules enclosed) with
  | some value => build "assignment_pattern" start (left.withField "left" :: value)
  | none => pure left

def restPattern (rules : Rules) : Read Node := do
  let start ← tokenStart
  let dots ← mark "..."
  let inner ← rules .pattern
  build "rest_pattern" start [dots, inner]

/-- A property that is taken from an object: under another name, or its own. -/
def propertyPattern (rules : Rules) : Read Node := do
  let start ← tokenStart
  let renamed ← optional do
    let key ← propertyName rules
    let colon ← mark ":"
    let value ← withDefault rules (rules .pattern)
    build "pair_pattern" start [key.withField "key", colon, value.withField "value"]
  match renamed with
  | some pair => pure pair
  | none => withDefault rules (identifier "shorthand_property_identifier_pattern")

def pattern (rules : Rules) : Read Node := do
  let start ← tokenStart
  match ← next with
  | .mark "[" =>
    let first ← mark "["
    let item := (fun n => [n]) <$> (restPattern rules <|> withDefault rules (rules .pattern))
    let rest ← commaList item (mark "]")
    build "array_pattern" start (first :: rest)
  | .mark m =>
    ensure (m == openBrace)
    let first ← mark openBrace
    let item := (fun n => [n]) <$> (restPattern rules <|> propertyPattern rules)
    let rest ← commaList item (mark closeBrace)
    build "object_pattern" start (first :: rest)
  | _ => identifier "identifier"

def parameterModifiers : List String := ["public", "private", "protected", "override", "readonly"]

def parameterModifier : Read Node := do
  ensure (← read).language.hasTypes
  let modifier ← oneWord parameterModifiers
  match ← next with
  | .word _ => pure modifier
  | .mark m => if m == "[" || m == openBrace then pure modifier else failure
  | _ => failure

/-- `@` and the call or name that decorates a class, a member or a parameter. -/
def decorator (rules : Rules) : Read Node := do
  let start ← tokenStart
  let at_ ← mark "@"
  let expression ←
    if ← isMark "(" then rules (.operand enclosed)
    else do
      let first ← identifier "identifier"
      grow (fun callee => optional (link start callee)) first
  build "decorator" start [at_, expression]
where
  link (start : Nat) (callee : Node) : Read Node := do
    if ← isMark "." then
      let dot ← mark "."
      let name ← anyWord "property_identifier"
      build "member_expression" start [callee, dot, name]
    else
      let first ← mark "("
      let rest ← commaList ((fun n => [n]) <$> rules (.expression enclosed)) (mark ")")
      build "call_expression" start [callee, .mk "arguments" true none callee.extent (first :: rest)]

def parameter (rules : Rules) : Read Node := do
  let start ← tokenStart
  let decorators ← many (decorator rules)
  let modifiers ← many parameterModifier
  let binding ← restPattern rules <|> rules .pattern <|> word "this"
  if (← read).language.hasTypes then
    let question ← maybe (mark "?")
    let type ← maybe (ascription rules)
    let value ← optional (initializer rules enclosed)
    let kind := if question.isEmpty then "required_parameter" else "optional_parameter"
    build kind start (decorators ++ modifiers ++ binding :: question ++ type ++ value.getD [])
  else
    match ← optional (initializer rules enclosed) with
    | some value => build "assignment_pattern" start (decorators ++ binding :: value)
    | none => pure binding

def parameters (rules : Rules) : Read Node := do
  let start ← tokenStart
  let first ← mark "("
  let rest ← commaList ((fun n => [n]) <$> parameter rules) (mark ")")
  build "formal_parameters" start (first :: rest)

end AsyncActions.Grammar
