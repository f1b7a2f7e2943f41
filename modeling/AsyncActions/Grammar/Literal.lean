import AsyncActions.Grammar.Read

/-!
# Literals and property names
-/

namespace AsyncActions.Grammar

def number : Read Node := do
  let i ← tokenStart
  take "number" true i ((← read).numberEnd i)

def string : Read Node := do
  ensure ((← next) == .string)
  let start ← tokenStart
  let close ← (← read).stringEnd? start
  let quote := (← read).text start (start + 1)
  let first ← take quote false start (start + 1)
  let inner ← if start + 2 < close then
      (fun n => [n]) <$> take "string_fragment" true (start + 1) (close - 1)
    else pure []
  let last ← take quote false (close - 1) close
  build "string" start (first :: inner ++ [last])

def regex : Read Node := do
  let start ← tokenStart
  take "regex" true start (← (← read).regexEnd? start)

def template (substitution : Read Node) : Read Node := do
  let start ← tokenStart
  ensure ((← read).isAt start '\x60')
  moveTo (start + 1)
  let parts ← many do
    let i ← (← read).templateTextEnd? (← get).pos
    moveTo i
    ensure ((← read).isAt i '$')
    let first ← take ("$" ++ openBrace) false i (i + 2)
    let inner ← substitution
    let last ← mark closeBrace
    build "template_substitution" i [first, inner, last]
  let close ← (← read).templateTextEnd? (← get).pos
  ensure ((← read).isAt close '\x60')
  moveTo (close + 1)
  build "template_string" start parts

def privateName : Read Node := do
  let i ← tokenStart
  ensure ((← read).isAt i '#')
  take "private_property_identifier" true i (← (← read).identifierEnd? (i + 1))

def propertyName (rules : Rules) : Read Node := do
  match ← next with
  | .word _ => anyWord "property_identifier"
  | .privateName => privateName
  | .string => string
  | .number => number
  | .mark "[" => do
    let start ← tokenStart
    let first ← mark "["
    let key ← rules (.expression enclosed)
    let last ← mark "]"
    build "computed_property_name" start [first, key, last]
  | _ => failure

def startsPropertyName : Read Bool := do
  match ← next with
  | .word _ | .privateName | .string | .number | .mark "[" => pure true
  | _ => pure false

end AsyncActions.Grammar
