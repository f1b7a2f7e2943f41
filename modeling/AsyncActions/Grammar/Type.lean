import AsyncActions.Grammar.Pattern

/-!
# Types

Type annotations, read so that what follows them is found. A type holds no function.
-/

namespace AsyncActions.Grammar

def onSameLine : Read Bool := do
  return !(← read).brokenBetween (← get).pos (← tokenStart)

def typeArguments (rules : Rules) : Read Node := do
  ensure (← read).language.hasTypes
  let start ← tokenStart
  let first ← markStart "<"
  let rest ← commaList ((fun n => [n]) <$> rules .type) (markStart ">")
  build "type_arguments" start (first :: rest)

def typeParameter (rules : Rules) : Read Node := do
  let start ← tokenStart
  let modifiers ← many do
    let modifier ← oneWord ["const", "in", "out"]
    match ← next with
    | .word _ => pure modifier
    | _ => failure
  let name ← identifier "type_identifier"
  let bound ← maybe do
    let start ← tokenStart
    let extends_ ← word "extends"
    let type ← rules .type
    build "constraint" start [extends_, type]
  let value ← maybe do
    let start ← tokenStart
    let equals ← mark "="
    let type ← rules .type
    build "default_type" start [equals, type]
  build "type_parameter" start (modifiers ++ name :: bound ++ value)

def typeParameters (rules : Rules) : Read Node := do
  ensure (← read).language.hasTypes
  let start ← tokenStart
  let first ← markStart "<"
  let rest ← commaList ((fun n => [n]) <$> typeParameter rules) (markStart ">")
  build "type_parameters" start (first :: rest)

/-- What is said of a call: type parameters, parameters and the type of the result. -/
def callSignature (rules : Rules) : Read (List Node) := do
  let types ← maybe (typeParameters rules)
  let params ← rules .parameters
  let result ← maybe (ascription rules)
  return types ++ params.withField "parameters" :: result.map (·.withField "return_type")

def functionType (rules : Rules) : Read Node := do
  let start ← tokenStart
  let words ← many (oneWord ["abstract", "new"])
  let types ← maybe (typeParameters rules)
  let params ← rules .parameters
  let arrow ← mark "=>"
  let result ← rules .type
  build "function_type" start (words ++ types ++ [params, arrow, result])

def typeReference (rules : Rules) : Read Node := do
  let start ← tokenStart
  let first ← anyWord "type_identifier"
  let named ← grow (fun left => optional do
    let dot ← mark "."
    let right ← anyWord "type_identifier"
    build "nested_type_identifier" start [left, dot, right]) first
  match ← optional (do ensure (← onSameLine); typeArguments rules) with
  | some arguments => build "generic_type" start [named, arguments]
  | none => pure named

def importedType (rules : Rules) : Read Node := do
  let start ← tokenStart
  let import_ ← word "import"
  let first ← mark "("
  let path ← rules .type
  let last ← mark ")"
  let names ← many do
    let dot ← mark "."
    let name ← anyWord "type_identifier"
    build "nested_type_identifier" start [dot, name]
  let arguments ← maybe (typeArguments rules)
  build "import_type" start ([import_, first, path, last] ++ names ++ arguments)

def typeQuery (rules : Rules) : Read Node := do
  let start ← tokenStart
  let typeof_ ← word "typeof"
  let path ← importedType rules <|> typeReference rules
  build "type_query" start [typeof_, path]

/-- A signature with a key in brackets: an index or a mapping. -/
def indexSignature (rules : Rules) : Read Node := do
  let start ← tokenStart
  let first ← mark "["
  let name ← anyWord "identifier"
  let separator ← mark ":" <|> word "in"
  let type ← rules .type
  let renamed ← maybe (do let _ ← word "as"; rules .type)
  let last ← mark "]"
  let signs ← many (mark "?" <|> mark "-" <|> mark "+")
  let result ← maybe (ascription rules)
  build "index_signature" start ([first, name, separator, type] ++ renamed ++ last :: signs ++ result)

def memberModifiers : List String :=
  ["readonly", "static", "get", "set", "async", "public", "private", "protected", "declare",
   "override", "abstract"]

/-- A modifier, if a key or an index follows it. -/
def memberModifier : Read Node := do
  let sign ← optional (mark "+" <|> mark "-")
  let modifier ← oneWord memberModifiers
  match sign with
  | some _ => pure modifier
  | none => if ← startsPropertyName then pure modifier else failure

def typeMember (rules : Rules) : Read Node := do
  let start ← tokenStart
  let modifiers ← many memberModifier
  let member ← optional (indexSignature rules)
  match member with
  | some index => build "index_signature" start (modifiers ++ [index])
  | none =>
    match ← optional (do let new_ ← maybe (word "new"); return new_ ++ (← callSignature rules)) with
    | some parts => build "call_signature" start parts
    | none =>
      let name ← propertyName rules
      let signs ← many (mark "?" <|> mark "!")
      match ← optional (callSignature rules) with
      | some parts =>
        build "method_signature" start (modifiers ++ name.withField "name" :: signs ++ parts)
      | none =>
        let type ← maybe (ascription rules)
        build "property_signature" start (modifiers ++ name.withField "name" :: signs ++ type)

def objectType (rules : Rules) : Read Node := do
  let start ← tokenStart
  let first ← mark openBrace
  let members ← many (mark ";" <|> mark "," <|> typeMember rules)
  let last ← mark closeBrace
  build "object_type" start (first :: members ++ [last])

def tupleElement (rules : Rules) : Read Node := do
  let start ← tokenStart
  let dots ← maybe (mark "...")
  let name ← optional do
    let name ← anyWord "identifier"
    let question ← maybe (mark "?")
    let colon ← mark ":"
    return name :: question ++ [colon]
  let type ← rules .type
  let question ← maybe (mark "?")
  build "tuple_element" start (dots ++ name.getD [] ++ type :: question)

def inferredType (rules : Rules) : Read Node := do
  let start ← tokenStart
  let infer_ ← word "infer"
  let name ← identifier "type_identifier"
  let bound ← optional do
    let extends_ ← word "extends"
    let type ← rules .type
    return [extends_, type]
  build "infer_type" start (infer_ :: name :: bound.getD [])

/-- The words that stand for types although they never name a variable. -/
def typeWords : List String := ["void", "null", "true", "false", "this", "const"]

def simpleType (rules : Rules) : Read Node := do
  let start ← tokenStart
  match ← next with
  | .mark "(" =>
    functionType rules <|> do
      let first ← mark "("
      let inner ← rules .type
      let last ← mark ")"
      build "parenthesized_type" start [first, inner, last]
  | .mark "<" => functionType rules
  | .mark "[" => do
    let first ← mark "["
    let rest ← commaList ((fun n => [n]) <$> tupleElement rules) (mark "]")
    build "tuple_type" start (first :: rest)
  | .mark "-" | .mark "+" => do
    let sign ← mark "-" <|> mark "+"
    ensure ((← next) == .number)
    let value ← number
    build "literal_type" start [sign, value]
  | .mark "*" => do
    let star ← mark "*"
    build "existential_type" start [star]
  | .mark _ => objectType rules
  | .string => do
    let value ← string
    build "literal_type" start [value]
  | .number => do
    let value ← number
    build "literal_type" start [value]
  | .template => do
    let value ← template (rules .type)
    build "template_literal_type" start [value]
  | .word "import" => importedType rules
  | .word "typeof" => typeQuery rules
  | .word "new" => functionType rules
  | .word w =>
    if reserved.contains w && !typeWords.contains w then failure
    else (do ensure (w == "abstract"); functionType rules) <|> typeReference rules
  | _ => failure

def prefixedType (rules : Rules) : Read Node := do
  let start ← tokenStart
  let operators ← many do
    let operator ← oneWord ["keyof", "unique", "readonly"]
    match ← next with
    | .word _ | .string | .number | .template => pure operator
    | .mark m => if ["(", "[", "-", "+", openBrace].contains m then pure operator else failure
    | _ => failure
  let type ← inferredType rules <|> simpleType rules
  let indexed ← grow (fun left => optional do
    ensure (← onSameLine)
    let first ← mark "["
    let index ← maybe (rules .type)
    let last ← mark "]"
    build "array_type" start (left :: first :: index ++ [last])) type
  if operators.isEmpty then pure indexed
  else build "index_type_query" start (operators ++ [indexed])

def unionType (rules : Rules) : Read Node := do
  let start ← tokenStart
  let lead ← maybe (mark "|" <|> mark "&")
  let first ← prefixedType rules
  let rest ← many do
    let bar ← mark "|" <|> mark "&"
    let type ← prefixedType rules
    return [bar, type]
  if lead.isEmpty && rest.isEmpty then pure first
  else build "union_type" start (lead ++ first :: rest.flatten)

/-- What a function promises of an argument. -/
def assertion (rules : Rules) : Read Node := do
  let start ← tokenStart
  let asserts_ ← word "asserts"
  ensure (← onSameLine)
  let name ← identifier "identifier" <|> word "this"
  let type ← optional do
    let is_ ← word "is"
    let type ← rules .type
    return [is_, type]
  build "asserts" start (asserts_ :: name :: type.getD [])

def type (rules : Rules) : Read Node := do
  let start ← tokenStart
  match ← optional (assertion rules) with
  | some promise => pure promise
  | none =>
    let left ← unionType rules
    let conditional ← optional do
      let extends_ ← word "extends"
      let right ← rules .type
      let question ← mark "?"
      let yes ← rules .type
      let colon ← mark ":"
      let no ← rules .type
      build "conditional_type" start [left, extends_, right, question, yes, colon, no]
    match conditional with
    | some whole => pure whole
    | none =>
      let predicate ← optional do
        ensure (← onSameLine)
        let is_ ← word "is"
        let type ← rules .type
        build "type_predicate" start [left, is_, type]
      return predicate.getD left

end AsyncActions.Grammar
