import AsyncActions.Grammar.Declaration

/-!
# Statements
-/

namespace AsyncActions.Grammar

def block (rules : Rules) : Read Node :=
  bracedItems "statement_block" ((fun n => [n]) <$> rules .statement)

def expressionStatement (rules : Rules) : Read Node := do
  let start ← tokenStart
  let value ← expressions rules atLineEnd
  let close ← endStatement true
  build "expression_statement" start (value :: close)

def emptyStatement : Read Node := do
  let start ← tokenStart
  let semicolon ← mark ";"
  build "empty_statement" start [semicolon]

def ifStatement (rules : Rules) : Read Node := do
  let start ← tokenStart
  let if_ ← word "if"
  let condition ← parenthesized rules
  let yes ← rules .statement
  let no ← optional do
    let else_ ← word "else"
    let no ← rules .statement
    return [else_, no]
  build "if_statement" start
    (if_ :: condition.withField "condition" :: yes.withField "consequence" :: no.getD [])

def whileStatement (rules : Rules) : Read Node := do
  let start ← tokenStart
  let while_ ← word "while"
  let condition ← parenthesized rules
  let body ← rules .statement
  build "while_statement" start [while_, condition, body.withField "body"]

def doStatement (rules : Rules) : Read Node := do
  let start ← tokenStart
  let do_ ← word "do"
  let body ← rules .statement
  let while_ ← word "while"
  let condition ← parenthesized rules
  let close ← if ← semicolonHere true then pure [] else maybe (mark ";")
  build "do_statement" start (do_ :: body.withField "body" :: while_ :: condition :: close)

/-- What a loop over a collection declares. Only `var` may have a first value, in which `in` is
no operator. -/
def loopDeclaration (rules : Rules) : Read (List Node) := do
  match ← next with
  | .word "var" =>
    let var ← word "var"
    let name ← rules .pattern
    let value ← optional do
      let equals ← mark "="
      let value ← rules (.binary enclosed 9)
      return [equals, value.withField "value"]
    return var :: name.withField "left" :: value.getD []
  | _ =>
    let words ← (fun n => [n]) <$> oneWord ["let", "const"] <|> do
      ensure (!(← read).language.hasTypes)
      let await_ ← maybe (word "await")
      return await_ ++ [← word "using"]
    let name ← rules .pattern
    return words ++ [name.withField "left"]

def loopBinding (rules : Rules) : Read (List Node) :=
  loopDeclaration rules <|> (fun n => [n.withField "left"]) <$> rules (.operand enclosed)

def forInHeader (rules : Rules) : Read (List Node) := do
  let first ← mark "("
  let binding ← loopBinding rules
  let kind ← word "in" <|> word "of"
  let values ← expressions rules enclosed
  let last ← mark ")"
  return first :: binding ++ [kind, values.withField "right", last]

def forHeader (rules : Rules) : Read (List Node) := do
  let first ← mark "("
  let start ← (variableList rules <|> emptyStatement <|> do
    let start ← tokenStart
    let value ← expressions rules enclosed
    let close ← mark ";"
    build "expression_statement" start [value, close])
  let condition ← emptyStatement <|> do
    let start ← tokenStart
    let value ← expressions rules enclosed
    let close ← mark ";"
    build "expression_statement" start [value, close]
  let step ← maybe (expressions rules enclosed)
  let last ← mark ")"
  return first :: start :: condition :: step ++ [last]

def forStatement (rules : Rules) : Read Node := do
  let start ← tokenStart
  let for_ ← word "for"
  let await_ ← maybe (word "await")
  let (type, header) ←
    ((fun h => ("for_in_statement", h)) <$> forInHeader rules) <|>
    ((fun h => ("for_statement", h)) <$> forHeader rules)
  let body ← rules .statement
  build type start (for_ :: await_ ++ header ++ [body.withField "body"])

def withStatement (rules : Rules) : Read Node := do
  let start ← tokenStart
  let with_ ← word "with"
  let scope ← parenthesized rules
  let body ← rules .statement
  build "with_statement" start [with_, scope, body.withField "body"]

def switchCase (rules : Rules) : Read Node := do
  let start ← tokenStart
  let head ← (do
      let case_ ← word "case"
      let value ← expressions rules enclosed
      return [case_, value]) <|> (fun n => [n]) <$> word "default"
  let colon ← mark ":"
  let body ← items ((fun n => [n]) <$> rules .statement) fun l =>
    l == .mark closeBrace || l == .word "case" || l == .word "default"
  build (if head.length == 1 then "switch_default" else "switch_case") start
    (head ++ colon :: body)

def switchStatement (rules : Rules) : Read Node := do
  let start ← tokenStart
  let switch_ ← word "switch"
  let value ← parenthesized rules
  let body ← bracedItems "switch_body" ((fun n => [n]) <$> switchCase rules)
  build "switch_statement" start [switch_, value, body.withField "body"]

def tryStatement (rules : Rules) : Read Node := do
  let start ← tokenStart
  let try_ ← word "try"
  let body ← rules .block
  let handler ← maybe do
    let start ← tokenStart
    let catch_ ← word "catch"
    let parameter ← optional do
      let first ← mark "("
      let name ← rules .pattern
      let type ← maybe (ascription rules)
      let last ← mark ")"
      return first :: name :: type ++ [last]
    let body ← rules .block
    build "catch_clause" start (catch_ :: parameter.getD [] ++ [body.withField "body"])
  let finalizer ← maybe do
    let start ← tokenStart
    let finally_ ← word "finally"
    let body ← rules .block
    build "finally_clause" start [finally_, body.withField "body"]
  build "try_statement" start (try_ :: body.withField "body" :: handler ++ finalizer)

def jump (type : String) (keyword : String) (value : Read Node) : Read Node := do
  let start ← tokenStart
  let keyword ← word keyword
  let value ← if ← semicolonHere false then pure [] else maybe value
  let close ← endStatement !value.isEmpty
  build type start (keyword :: value ++ close)

def throwStatement (rules : Rules) : Read Node := do
  let start ← tokenStart
  let throw_ ← word "throw"
  let value ← expressions rules atLineEnd
  let close ← endStatement true
  build "throw_statement" start (throw_ :: value :: close)

def labeledStatement (rules : Rules) : Read Node := do
  let start ← tokenStart
  let label ← identifier "statement_identifier"
  let colon ← mark ":"
  let body ← rules .statement
  build "labeled_statement" start [label.withField "label", colon, body.withField "body"]

/-! ## Modules -/

def importAttributes (rules : Rules) : Read Node := do
  let start ← tokenStart
  let with_ ← word "with" <|> word "assert"
  let value ← object rules
  build "import_attribute" start [with_, value]

def fromClause (rules : Rules) : Read (List Node) := do
  let from_ ← word "from"
  let path ← string
  let attributes ← maybe (importAttributes rules)
  return from_ :: path.withField "source" :: attributes

/-- A name, with another name that it gets or words that precede it. -/
def specifier : Read (List Node) := do
  let first ← string <|> anyWord "identifier"
  let rest ← many (string <|> anyWord "identifier")
  return first :: rest

def namedList : Read (List Node) := do
  let first ← mark openBrace
  let rest ← commaList specifier (mark closeBrace)
  return first :: rest

def wholeModule : Read (List Node) := do
  let star ← mark "*"
  let name ← optional do
    let as_ ← word "as"
    let name ← string <|> anyWord "identifier"
    return [as_, name]
  return star :: name.getD []

def importPart : Read (List Node) :=
  wholeModule <|> namedList <|> (fun n => [n]) <$> identifier "identifier"

def importClause : Read (List Node) := do
  let first ← importPart
  let rest ← many do
    let comma ← mark ","
    let part ← importPart
    return comma :: part
  return first ++ rest.flatten

def importAlias (rules : Rules) : Read (List Node) := do
  ensure (← read).language.hasTypes
  let name ← identifier "identifier"
  let equals ← mark "="
  let value ← rules (.expression atLineEnd)
  return [name, equals, value]

def importStatement (rules : Rules) : Read Node := do
  let start ← tokenStart
  let import_ ← word "import"
  let clause := importAlias rules <|>
    (do
      let clause ← importClause
      let source ← fromClause rules
      return clause ++ source) <|>
    (do
      let path ← string
      let attributes ← maybe (importAttributes rules)
      return path :: attributes)
  let kinded : Read (List Node) := do
    let kind ← oneWord ["type", "typeof", "defer", "source"]
    return kind :: (← clause)
  let parts ← kinded <|> clause
  let close ← endStatement true
  build "import_statement" start (import_ :: parts ++ close)

/-- What is exported by default: a declaration with a name, or a value. -/
def exportDefault (rules : Rules) : Read (List Node) := do
  let default_ ← word "default"
  let named ← optional do
    match ← next with
    | .word "function" | .word "async" => functionDeclaration rules true
    | .word "class" | .word "abstract" => do classDeclaration rules (← tokenStart) []
    | .word "interface" => do
      ensure (← read).language.hasTypes
      interface rules
    | _ => failure
  match named with
  | some node => return [default_, node.withField "declaration"]
  | none =>
    let value ← rules (.expression atLineEnd)
    let close ← endStatement true
    return default_ :: value.withField "value" :: close

def exportNames (rules : Rules) : Read (List Node) := do
  let kind ← if (← read).language.hasTypes then maybe (word "type") else pure []
  let names ← wholeModule <|> namedList
  let source ← optional (fromClause rules)
  let close ← endStatement true
  return kind ++ names ++ source.getD [] ++ close

def typedExport (rules : Rules) : Read (List Node) := do
  ensure (← read).language.hasTypes
  (do
    let equals ← mark "="
    let value ← rules (.expression atLineEnd)
    let close ← endStatement true
    return equals :: value :: close) <|>
  (do
    let as_ ← word "as"
    let namespace_ ← word "namespace"
    let name ← identifier "identifier"
    let close ← endStatement true
    return as_ :: namespace_ :: name :: close) <|>
  (do
    let import_ ← word "import"
    let parts ← importAlias rules
    let close ← endStatement true
    return import_ :: parts ++ close)

def exportStatement (rules : Rules) (start : Nat) (decorators : List Node) : Read Node := do
  let export_ ← word "export"
  let inner ← tokenStart
  let more ← many ((·.withField "decorator") <$> decorator rules)
  let parts ← exportDefault rules <|> exportNames rules <|> typedExport rules <|>
    (if more.isEmpty then (fun n => [n.withField "declaration"]) <$> declaration rules false
      else (fun n => [n.withField "declaration"]) <$> classDeclaration rules inner more)
  build "export_statement" start (decorators ++ export_ :: parts)

def decorated (rules : Rules) : Read Node := do
  let start ← tokenStart
  let decorators ← many ((·.withField "decorator") <$> decorator rules)
  ensure !decorators.isEmpty
  exportStatement rules start decorators <|> classDeclaration rules start decorators

/-! ## All statements -/

def keywordStatement (rules : Rules) : String → Option (Read Node)
  | "if" => some (ifStatement rules)
  | "for" => some (forStatement rules)
  | "while" => some (whileStatement rules)
  | "do" => some (doStatement rules)
  | "switch" => some (switchStatement rules)
  | "try" => some (tryStatement rules)
  | "with" => some (withStatement rules)
  | "throw" => some (throwStatement rules)
  | "return" => some (jump "return_statement" "return" (expressions rules atLineEnd))
  | "break" => some (jump "break_statement" "break" (identifier "statement_identifier"))
  | "continue" => some (jump "continue_statement" "continue" (identifier "statement_identifier"))
  | "debugger" => some (jump "debugger_statement" "debugger" failure)
  | "export" => some (do exportStatement rules (← tokenStart) [])
  | _ => none

/-- Words that begin nothing but a declaration where there are types. -/
def declarationWords : List String := ["interface", "enum", "abstract"]

def statement (rules : Rules) : Read Node := do
  match ← next with
  | .finish => failure
  | .mark ";" => emptyStatement
  | .mark "@" => decorated rules <|> expressionStatement rules
  | .mark m => if m == openBrace then rules .block else expressionStatement rules
  | .word w =>
    match keywordStatement rules w with
    | some read => read
    | none =>
      if w == "import" then importStatement rules <|> expressionStatement rules
      else if (← read).language.hasTypes && declarationWords.contains w then declaration rules true
      else labeledStatement rules <|> declaration rules true <|> expressionStatement rules
  | _ => expressionStatement rules

end AsyncActions.Grammar
