import AsyncActions.Grammar.Literal

/-!
# Broken text

Where nothing can be read, one token is set aside and reading goes on behind it, so that the
functions around the fault are still found.
-/

namespace AsyncActions.Grammar

/-- Past one token, whatever it is. A comment that never ends takes the rest. -/
def Input.anyTokenEnd (input : Input) (i : Nat) : Nat :=
  if input.startsAt i ['/', '*'] then input.chars.size
  else
    match input.lexeme i with
    | .word _ => (input.identifierEnd? i).getD (i + 1)
    | .privateName => (input.identifierEnd? (i + 1)).getD (i + 1)
    | .string => (input.stringEnd? i).getD (i + 1)
    | .number => input.numberEnd i
    | .mark m => i + m.length
    | _ => i + 1

def skipToken : Read Node := do
  let i ← tokenStart
  let j := (← read).anyTokenEnd i
  ensure (i < (← read).chars.size)
  markBroken
  take errorType true i j

def neverStarts : List String :=
  [")", "]", ",", ":", "=", ".", "?", "?.", "*", "**", "%", "&", "&&", "|", "||", "^", ">", ">=",
   ">>", ">>>", "=>", "==", "===", "!=", "!==", "??", "...", "<=", "<<"]

/-- The end of `n` is moved to that of `last`, which becomes a child of it and of the declaration
that it exports. -/
def absorb (last : Node) : Node → Node
  | .mk type named field extent children =>
    let wide : Extent := { extent with endByte := last.endByte, endPoint := last.endPoint }
    if type = "export_statement" then
      .mk type named field wide (children.map fun
        | .mk t n (some "declaration") e cs =>
          .mk t n (some "declaration")
            { e with endByte := last.endByte, endPoint := last.endPoint } (cs ++ [last])
        | c => c)
    else .mk type named field wide (children ++ [last])

/-- A declaration that ends with a body, and so is still open where its line does not end. -/
def declaresFunction (n : Node) : Bool :=
  let types := ["function_declaration", "generator_function_declaration"]
  types.contains n.type ||
    (n.type == "export_statement" && n.children.any fun c =>
      c.field == some "declaration" && types.contains c.type)

/-- Items up to the end of the text or up to where `stops` holds. A token that begins no item is
set aside; it still belongs to a function declared just before it on its line. -/
def items (item : Read (List Node)) (stops : Lexeme → Bool) : Read (List Node) := do
  let pos := (← get).pos
  go ((← read).fuel pos) []
where
  go : Nat → List Node → Read (List Node)
    | 0, done => pure done.reverse
    | fuel + 1, done => do
      let first ← next
      if first == .finish || stops first then pure done.reverse
      else
        match ← optional item with
        | some nodes => go fuel (nodes.reverse ++ done)
        | none =>
          let stuck := match first with
            | .mark m => neverStarts.contains m
            | _ => false
          let open_ := stuck && !(← semicolonHere false)
          let bad ← skipToken
          match done with
          | last :: rest =>
            if open_ && declaresFunction last then go fuel (absorb bad last :: rest)
            else go fuel (bad :: done)
          | [] => go fuel [bad]

def bracedItems (type : String) (item : Read (List Node)) : Read Node := do
  let start ← tokenStart
  let first ← mark openBrace
  let inner ← items item (· == .mark closeBrace)
  let last ← closer closeBrace
  build type start (first :: inner ++ [last])

end AsyncActions.Grammar
