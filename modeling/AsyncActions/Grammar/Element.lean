import AsyncActions.Grammar.Function

/-!
# Markup elements

An element is an expression. Between its tags stand text, which is no code, expressions in
braces, and further elements.
-/

namespace AsyncActions.Grammar

/-- A name in a tag may hold hyphens. -/
def tagWord : Read Node := do
  let i ← tokenStart
  let input ← read
  let j ← input.identifierEnd? i
  take "identifier" true i (input.skipWhile (fun c => c = '-' || isIdentifierPart c) j)

/-- A tag name: a name, a member path, or a name in a namespace. -/
def tagName : Read Node := do
  let start ← tokenStart
  let first ← tagWord
  grow (fun left => optional do
    let separator ← mark "." <|> mark ":"
    let right ← tagWord
    let type := if separator.type == "." then "member_expression" else "jsx_namespace_name"
    build type start [left, separator, right]) first

/-- Past a reference such as `&amp;`, or past a number after `&#`. -/
def Input.referenceEnd? (input : Input) (i : Nat) : Option Nat :=
  let close (j k : Nat) := if j < k && input.isAt k ';' then some (k + 1) else none
  if input.startsAt i ['&', '#', 'x'] || input.startsAt i ['&', '#', 'X'] then
    close (i + 3) (input.skipWhile isHexDigit (i + 3))
  else if input.startsAt i ['&', '#'] then close (i + 2) (input.skipWhile Char.isDigit (i + 2))
  else if input.isAt i '&' then close (i + 1) (input.skipWhile Char.isAlpha (i + 1))
  else none

def bracedExpression (rules : Rules) : Read Node := do
  let start ← tokenStart
  let first ← mark openBrace
  let inner ← maybe (spread rules <|> do
    let first ← rules (.expression enclosed)
    let rest ← many do
      let comma ← mark ","
      let value ← rules (.expression enclosed)
      return [comma, value]
    if rest.isEmpty then pure first
    else build "sequence_expression" start (first :: rest.flatten))
  let last ← mark closeBrace
  build "jsx_expression" start (first :: inner ++ [last])

/-- A quoted attribute value. A backslash in it is a character like any other. -/
def attributeString : Read Node := do
  let start ← tokenStart
  let input ← read
  let quote ← input.chars[start]?
  ensure (quote = '\x22' || quote = '\x27')
  let close := input.skipWhile (· ≠ quote) (start + 1)
  ensure (input.isAt close quote)
  take "string" true start (close + 1)

def tagAttribute (rules : Rules) : Read Node := do
  if ← isMark openBrace then bracedExpression rules
  else
    let start ← tokenStart
    let name ← tagName
    let value ← optional do
      let equals ← mark "="
      let value ← bracedExpression rules <|> attributeString <|> rules .element
      return [equals, value]
    build "jsx_attribute" start (name :: value.getD [])

/-- Text between tags, up to a tag, a brace or a reference. -/
def elementText : Read Node := do
  let i := (← get).pos
  let j := (← read).skipWhile (fun c => !"<>&".contains c && c ≠ '\x7b' && c ≠ '\x7d') i
  ensure (i < j)
  take "jsx_text" true i j

def reference : Read Node := do
  let i := (← get).pos
  take "html_character_reference" true i (← (← read).referenceEnd? i)

def closes : Read Bool := do
  let i := (← get).pos
  return (← read).startsAt i ['<', '/']

def child (rules : Rules) : Read Node := do
  ensure (!(← closes))
  elementText <|> reference <|> bracedExpression rules <|> rules .element

/-- An element: one closed tag, or two tags that agree with what stands between them. A tag with
no name is a fragment. -/
def element (rules : Rules) : Read Node := do
  let start ← tokenStart
  let first ← mark "<"
  let head ← maybe tagName
  let types ← if head.isEmpty then pure [] else maybe (typeArguments rules)
  let attributes ← if head.isEmpty then pure [] else many (tagAttribute rules)
  match ← optional (do ensure !head.isEmpty; let slash ← mark "/"; return [slash, ← markStart ">"]) with
  | some close => build "jsx_self_closing_element" start (first :: head ++ types ++ attributes ++ close)
  | none =>
    let last ← markStart ">"
    let opening ← build "jsx_opening_element" start (first :: head ++ types ++ attributes ++ [last])
    let inner ← many (child rules)
    let tail ← tokenStart
    let open_ ← mark "<"
    let slash ← mark "/"
    let name ← maybe tagName
    ensure (head.isEmpty == name.isEmpty)
    let close ← markStart ">"
    let closing ← build "jsx_closing_element" tail (open_ :: slash :: name ++ [close])
    build "jsx_element" start (opening :: inner ++ [closing])

end AsyncActions.Grammar
