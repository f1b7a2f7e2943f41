import AsyncActions.Grammar.Type

/-!
# Functions and methods

Function expressions and declarations, arrow functions, and the methods of classes and objects.
-/

namespace AsyncActions.Grammar

def functionTail (rules : Rules) : Read (List Node) := do
  let signature ← callSignature rules
  let body ← rules .block
  return signature ++ [body.withField "body"]

/-- The word `async`, if it is not a name that ends its statement. -/
def asyncWord (context : Context) : Read Node := do
  let async ← word "async"
  if context.lineEnds then ensure (!(← semicolonHere true))
  pure async

def functionHead (name : Read (List Node)) : Read (Bool × List Node) := do
  let keyword ← word "function"
  let star ← maybe (mark "*")
  let name ← name
  return (!star.isEmpty, keyword :: star ++ name.map (·.withField "name"))

def functionExpression (rules : Rules) (context : Context) : Read Node := do
  let start ← tokenStart
  let async ← maybe (asyncWord context)
  let (generator, head) ← functionHead (maybe (identifier "identifier"))
  let tail ← functionTail rules
  build (if generator then "generator_function" else "function_expression") start
    (async ++ head ++ tail)

def arrowHead (rules : Rules) (context : Context) : Read (List Node) :=
  (fun name => [name.withField "parameter"]) <$> identifier "identifier" <|>
    if context.colonEnds then do
      let types ← maybe (typeParameters rules)
      let params ← rules .parameters
      return types ++ [params.withField "parameters"]
    else callSignature rules

def arrowFrom (rules : Rules) (context : Context) (start : Nat) (async : List Node) :
    Read Node := do
  let head ← arrowHead rules context
  let arrow ← mark "=>"
  let body ← if ← isMark openBrace then rules .block else rules (.expression context)
  build "arrow_function" start (async ++ head ++ [arrow, body.withField "body"])

/-- An arrow function. The word `async` may be its modifier or its only parameter. -/
def arrowFunction (rules : Rules) (context : Context) : Read Node := do
  let start ← tokenStart
  (do arrowFrom rules context start [← asyncWord context]) <|> arrowFrom rules context start []

/-! ## Members -/

/-- A word that stands before a key. In a class it is a field of its own where its line may end. -/
def modifierBefore (inClass : Bool) (w : String) (follows : Read Bool) : Read Node := do
  let modifier ← word w
  if inClass then ensure (!(← semicolonHere false))
  ensure (← follows)
  pure modifier

def startsMethodKey : Read Bool := do
  return (← startsPropertyName) || (← isMark "*")

def methodModifiers (inClass : Bool) : Read (List Node) := do
  let async ← maybe (modifierBefore inClass "async" startsMethodKey)
  let kind ← maybe (modifierBefore inClass "get" startsPropertyName <|>
    modifierBefore inClass "set" startsPropertyName <|> mark "*")
  return async ++ kind

def startsParameters : Read Bool := do
  return (← isMark "(") || ((← read).language.hasTypes && (← isMark "<"))

/-- The key, parameters and body of a method after what precedes them. -/
def methodFrom (rules : Rules) (start : Nat) (before : List Node) (key : Node) : Read Node := do
  let question ← if (← read).language.hasTypes then maybe (mark "?") else pure []
  let tail ← functionTail rules
  build "method_definition" start (before ++ key.withField "name" :: question ++ tail)

def spread (rules : Rules) : Read Node := do
  let start ← tokenStart
  let dots ← mark "..."
  let value ← rules (.expression enclosed)
  build "spread_element" start [dots, value]

def property (rules : Rules) : Read Node := do
  let start ← tokenStart
  let modifiers ← methodModifiers false
  let key ← propertyName rules
  if !modifiers.isEmpty || (← startsParameters) then methodFrom rules start modifiers key
  else
    match ← optional (mark ":") with
    | some colon =>
      let value ← rules (.expression enclosed)
      build "pair" start [key.withField "key", colon, value.withField "value"]
    | none =>
      ensure (key.type == "property_identifier")
      let value ← optional (initializer rules enclosed)
      match value with
      | some parts => build "object_assignment_pattern" start (key :: parts)
      | none => build "shorthand_property_identifier" start []

def object (rules : Rules) : Read Node := do
  let start ← tokenStart
  let first ← mark openBrace
  let item := (fun n => [n]) <$> (spread rules <|> property rules)
  let rest ← commaList item (closer closeBrace)
  build "object" start (first :: rest)

end AsyncActions.Grammar
