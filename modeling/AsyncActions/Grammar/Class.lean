import AsyncActions.Grammar.Function
import AsyncActions.Grammar.Recovery

/-!
# Classes

A word such as `static` or `get` that stands alone on its line is a field; otherwise it belongs
to the member that follows it. Without types the decorators of a member are part of it; with
types they stand before it.
-/

namespace AsyncActions.Grammar

/-- What a class is derived from and what it implements. -/
def heritage (rules : Rules) : Read (List Node) := do
  let start ← tokenStart
  let bases ← maybe do
    let start ← tokenStart
    let extends_ ← word "extends"
    let base ← rules (.operand enclosed)
    let arguments ← maybe (typeArguments rules)
    build "extends_clause" start (extends_ :: base :: arguments)
  let contracts ← maybe do
    ensure (← read).language.hasTypes
    let start ← tokenStart
    let implements_ ← word "implements"
    let first ← rules .type
    let rest ← many do
      let comma ← mark ","
      let type ← rules .type
      return [comma, type]
    build "implements_clause" start (implements_ :: first :: rest.flatten)
  if bases.isEmpty && contracts.isEmpty then pure []
  else return [← build "class_heritage" start (bases ++ contracts)]

/-- A class after its decorators and modifiers. The name `implements` is never that of a class. -/
def classFrom (rules : Rules) (start : Nat) (before : List Node) (type : Bool → String) :
    Read Node := do
  let class_ ← word "class"
  let name ← maybe do
    ensure (!(← isWord "implements"))
    identifier (if (← read).language.hasTypes then "type_identifier" else "identifier")
  let types ← maybe (typeParameters rules)
  let heritage ← heritage rules
  let body ← rules .classBody
  build (type !name.isEmpty) start (before ++ class_ :: name.map (·.withField "name") ++ types ++
    heritage ++ [body.withField "body"])

/-! ## Members -/

def staticBlock (rules : Rules) : Read Node := do
  let start ← tokenStart
  let static_ ← word "static"
  let body ← rules .block
  build "class_static_block" start [static_, body.withField "body"]

/-- `static get` with the line break after it, which reads as one word. -/
def staticGetLine : Read Node := do
  let input ← read
  ensure (!input.language.hasTypes)
  let i ← tokenStart
  ensure (input.startsAt i "static".toList)
  let j := input.skipWhile isAsciiSpace (i + 6)
  ensure (i + 6 < j && input.startsAt j "get".toList)
  let k := input.skipWhile isAsciiSpace (j + 3)
  let blank := input.chars.extract (j + 3) k
  ensure (blank.contains '\n')
  let tail := (blank.toList.reverse.takeWhile (· ≠ '\n')).length
  take "static get" false i (k - tail)

/-- One of these words, if there is a member for it to modify. -/
def classModifier (words : List String) : Read (List Node) :=
  maybe (words.foldr (fun w rest => modifierBefore true w startsMethodKey <|> rest) failure)

/-- The modifiers of a typed member, in the one order in which they may stand. The words
`accessor` and `abstract` never name a member. -/
def typedModifiers : Read (List Node) := do
  let early ← classModifier ["declare"]
  let access ← classModifier ["public", "private", "protected"]
  let late ← if early.isEmpty then classModifier ["declare"] else pure []
  let kind ← (fun n => [n]) <$> word "accessor" <|>
    (do return (← classModifier ["readonly"]) ++ [← word "abstract"]) <|>
    (do return (← word "abstract") :: (← classModifier ["override", "readonly"])) <|>
    (do return (← classModifier ["static"]) ++ (← classModifier ["override"]) ++
      (← classModifier ["readonly"]))
  return early ++ access ++ late ++ kind

def fieldFrom (rules : Rules) (start : Nat) (before : List Node) (key : Node) : Read Node := do
  let typed := (← read).language.hasTypes
  let sign ← if typed then maybe (mark "?" <|> mark "!") else pure []
  let type ← maybe (ascription rules)
  let value ← optional (initializer rules atLineEnd)
  build (if typed then "public_field_definition" else "field_definition") start
    (before ++ key.withField (if typed then "name" else "property") :: sign ++ type ++
      value.getD [])

def methodOrSignature (rules : Rules) (start : Nat) (before : List Node) (key : Node) :
    Read Node := do
  match ← optional (methodFrom rules start before key) with
  | some method => pure method
  | none =>
    ensure (← read).language.hasTypes
    let question ← maybe (mark "?")
    let signature ← callSignature rules
    build "method_signature" start (before ++ key.withField "name" :: question ++ signature)

def startsMethod : Read Bool :=
  lookAhead do
    if (← read).language.hasTypes then let _ ← optional (mark "?")
    startsParameters

/-- The end of a member: an optional semicolon after a body, a needed one after a field. -/
def endMember (member : Node) : Read (List Node) := do
  if member.type == "method_definition" then maybe (mark ";")
  else
    match ← optional (mark ",") with
    | some comma => pure [comma]
    | none => endStatement (member.children.any (·.field == some "value"))

def member (rules : Rules) : Read (List Node) := do
  let outer ← tokenStart
  let decorators ← many ((·.withField "decorator") <$> decorator rules)
  let inner ← tokenStart
  let typed := (← read).language.hasTypes
  let joined ← optional staticGetLine
  let words ← match joined with
    | some joined => pure [joined]
    | none => if typed then typedModifiers else classModifier ["static"]
  let index ← if typed && words.all (·.type == "readonly") then optional (indexSignature rules)
    else pure none
  match index with
  | some signature => return signature :: (← endMember signature)
  | none =>
    let modifiers ← methodModifiers true
    let key ← propertyName rules
    let start := if typed then inner else outer
    let before := (if typed then [] else decorators) ++ words ++ modifiers
    let member ← if ← startsMethod then methodOrSignature rules start before key
      else do
        ensure (!modifiers.any (·.type == "*"))
        fieldFrom rules start before key
    return (if typed then decorators else []) ++ member.withField "member" :: (← endMember member)

def classBody (rules : Rules) : Read Node :=
  bracedItems "class_body" <|
    (fun n => [n]) <$> mark ";" <|> (fun n => [n]) <$> staticBlock rules <|> member rules

end AsyncActions.Grammar
