import AsyncActions.Grammar.Expression

/-!
# Declarations

Variables, functions and classes, and the declarations that types add.
-/

namespace AsyncActions.Grammar

def declarator (rules : Rules) : Read Node := do
  let start ← tokenStart
  let name ← rules .pattern
  let typed := (← read).language.hasTypes
  let sign ← if typed then maybe (mark "!") else pure []
  let type ← maybe (ascription rules)
  let value ← optional (initializer rules atLineEnd)
  build "variable_declarator" start (name.withField "name" :: sign ++ type ++ value.getD [])

def declarators (rules : Rules) : Read (List Node) := do
  let first ← declarator rules
  let rest ← many do
    let comma ← operatorMark ","
    let next ← declarator rules
    return [comma, next]
  return first :: rest.flatten

def startsPattern : Read Bool := do
  match ← next with
  | .word w => return !(w == "in" || w == "instanceof" || w == "of")
  | .mark m => return m == "[" || m == openBrace
  | _ => pure false

/-- The words before the variables, and the type of such a declaration. Some of the words may
also name a variable. -/
def variableWords : Read (List Node × String) := do
  match ← next with
  | .word "var" => return ([← word "var"], "variable_declaration")
  | .word "const" => return ([← word "const"], "lexical_declaration")
  | .word "let" => do
    let let_ ← word "let"
    ensure (!(← semicolonHere true) && (← startsPattern))
    return ([let_], "lexical_declaration")
  | _ => do
    ensure (!(← read).language.hasTypes)
    let await_ ← maybe (word "await")
    let using_ ← word "using"
    match ← next with
    | .word _ => ensure (!(← semicolonHere true) && (← startsPattern))
    | _ => failure
    return (await_ ++ [using_], "using_declaration")

def variableList (rules : Rules) : Read Node := do
  let start ← tokenStart
  let (words, type) ← variableWords
  let names ← declarators rules
  let close ← endStatement true
  build type start (words ++ names ++ close)

/-- Past the comments that stand before the end of the line, where the line ends a declaration. -/
def finishLine (afterOperand : Bool) : Read Unit := do
  match (← read).semicolonPlace? afterOperand false (← get).pos with
  | some i => moveTo i
  | none => pure ()

/-- A function with a name. With types it may lack a body. `mayBeValue` says that a function
expression could stand in its place. -/
def functionDeclaration (rules : Rules) (mayBeValue : Bool) : Read Node := do
  let start ← tokenStart
  let async ← maybe (asyncWord atLineEnd)
  let (generator, head) ← functionHead ((fun n => [n]) <$> identifier "identifier")
  let signature ← callSignature rules
  let parts := async ++ head ++ signature
  if (← read).language.hasTypes && !(← isMark openBrace) then
    let close ← endStatement false
    build "function_signature" start (parts ++ close)
  else
    let body ← rules .block
    finishLine mayBeValue
    build (if generator then "generator_function_declaration" else "function_declaration") start
      (parts ++ [body.withField "body"])

def classDeclaration (rules : Rules) (start : Nat) (decorators : List Node) : Read Node := do
  let abstract_ ← if (← read).language.hasTypes then maybe (word "abstract") else pure []
  let type := if abstract_.isEmpty then "class_declaration" else "abstract_class_declaration"
  let node ← classFrom rules start (decorators ++ abstract_) fun _ => type
  ensure (node.children.any (·.field == some "name"))
  pure node

/-! ## Declarations of types -/

def contextualWord (w : String) : Read Node := do
  let keyword ← word w
  ensure (!(← semicolonHere true))
  pure keyword

def typeAlias (rules : Rules) : Read Node := do
  let start ← tokenStart
  let type_ ← contextualWord "type"
  let name ← anyWord "type_identifier"
  let types ← maybe (typeParameters rules)
  let equals ← mark "="
  let value ← rules .type
  let close ← endStatement false
  build "type_alias_declaration" start (type_ :: name :: types ++ equals :: value :: close)

def interface (rules : Rules) : Read Node := do
  let start ← tokenStart
  let interface_ ← word "interface"
  let name ← identifier "type_identifier"
  let types ← maybe (typeParameters rules)
  let bases ← optional do
    let extends_ ← word "extends"
    let first ← rules .type
    let rest ← many do
      let comma ← mark ","
      let type ← rules .type
      return [comma, type]
    return extends_ :: first :: rest.flatten
  let body ← objectType rules
  build "interface_declaration" start (interface_ :: name :: types ++ bases.getD [] ++ [body])

def enumeration (rules : Rules) : Read Node := do
  let start ← tokenStart
  let const_ ← maybe (word "const")
  let enum_ ← word "enum"
  let name ← identifier "identifier"
  let first ← mark openBrace
  let item : Read (List Node) := do
    let start ← tokenStart
    let key ← propertyName rules
    match ← optional (initializer rules enclosed) with
    | some value => return [← build "enum_assignment" start (key :: value)]
    | none => pure [key]
  let rest ← commaList item (mark closeBrace)
  build "enum_declaration" start (const_ ++ [enum_, name, first] ++ rest)

def dottedName : Read Node := do
  let start ← tokenStart
  let first ← identifier "identifier"
  grow (fun left => optional do
    let dot ← mark "."
    let right ← anyWord "property_identifier"
    build "nested_identifier" start [left, dot, right]) first

/-- A namespace is an expression that stands as a statement, unless something else follows it on
its line. -/
def namespaceStatement (rules : Rules) : Read Node := do
  let start ← tokenStart
  let namespace_ ← contextualWord "namespace"
  let name ← dottedName
  let body ← maybe (rules .block)
  let inner ← build "internal_module" start (namespace_ :: name :: body)
  if ← semicolonHere true then build "expression_statement" start [inner]
  else
    match ← optional (mark ";") with
    | some semicolon => build "expression_statement" start [inner, semicolon]
    | none => pure inner

def moduleDeclaration (rules : Rules) : Read Node := do
  let start ← tokenStart
  let module_ ← contextualWord "module"
  let name ← string <|> dottedName
  let body ← maybe (rules .block)
  build "module" start (module_ :: name :: body)

/-- A declaration of something that is defined elsewhere. -/
def ambient (rules : Rules) (declaration : Read Node) : Read Node := do
  let start ← tokenStart
  let declare_ ← contextualWord "declare"
  let rest ← (do
      let global_ ← word "global"
      return [global_, ← rules .block]) <|>
    (fun n => [n]) <$> declaration
  build "ambient_declaration" start (declare_ :: rest)

def typedDeclaration (rules : Rules) : Read Node := do
  ensure (← read).language.hasTypes
  match ← next with
  | .word "type" => typeAlias rules
  | .word "interface" => interface rules
  | .word "enum" | .word "const" => enumeration rules
  | .word "namespace" => namespaceStatement rules
  | .word "module" => moduleDeclaration rules
  | .word "abstract" => do classDeclaration rules (← tokenStart) []
  | _ => failure

def plainDeclaration (rules : Rules) (mayBeValue : Bool) : Read Node := do
  typedDeclaration rules <|>
    match ← next with
    | .word "function" | .word "async" => functionDeclaration rules mayBeValue
    | .word "class" => do classDeclaration rules (← tokenStart) []
    | _ => variableList rules

def declaration (rules : Rules) (mayBeValue : Bool) : Read Node := do
  let plain := plainDeclaration rules mayBeValue
  if (← read).language.hasTypes && (← isWord "declare") then ambient rules plain <|> plain
  else plain

end AsyncActions.Grammar
