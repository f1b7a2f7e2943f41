import AsyncActions.Grammar.Lexeme

/-!
# Reading

A reader looks at the input from a cursor on and gives a value and a later cursor, or nothing.
The rules of the grammar are readers that take the reader of their parts as a parameter, so each
is defined on its own; `Program` ties them together.
-/

namespace AsyncActions.Grammar

/-- How far a reader has come: past the last token. `broken` once text was skipped or missing. -/
structure Cursor where
  pos : Nat
  broken : Bool

abbrev Read := ReaderT Input (StateT Cursor Option)

structure Context where
  /-- A line break may end the statement that the expression ends. -/
  lineEnds : Bool
  /-- A colon after parentheses belongs to a conditional, not to a return type. -/
  colonEnds : Bool

def enclosed : Context := ⟨false, false⟩

def atLineEnd : Context := ⟨true, false⟩

inductive Rule where
  | statement
  | block
  | expression (context : Context)
  | binary (context : Context) (least : Nat)
  | operand (context : Context)
  | pattern
  | parameters
  | classBody
  | element
  | type

abbrev Rules := Rule → Read Node

def errorType : String := "ERROR"

/-- The start of the next token where an operand may stand. -/
def tokenStart : Read Nat := do
  return (← read).skipTrivia false (← get).pos

/-- The start of the next token where an operator may stand. -/
def operatorStart : Read Nat := do
  return (← read).skipTrivia true (← get).pos

def moveTo (pos : Nat) : Read Unit := modify fun c => { c with pos }

def markBroken : Read Unit := modify fun c => { c with broken := true }

def next : Read Lexeme := do
  return (← read).lexeme (← tokenStart)

/-- The token at `i` up to `j` as a leaf; reading goes on after it. -/
def take (type : String) (named : Bool) (i j : Nat) : Read Node := do
  moveTo j
  return .mk type named none ((← read).extent i j) []

def build (type : String) (start : Nat) (children : List Node) : Read Node := do
  return .mk type true none ((← read).extent start (← get).pos) children

/-- What `p` finds, without going on from there. -/
def lookAhead {α : Type} (p : Read α) : Read α := do
  let cursor ← get
  let a ← p
  set cursor
  pure a

def ensure (b : Bool) : Read Unit := if b then pure () else failure

def isMark (m : String) : Read Bool := return (← next) == .mark m

def isWord (w : String) : Read Bool := return (← next) == .word w

def mark (m : String) : Read Node := do
  let i ← tokenStart
  ensure ((← read).mark? i == some m)
  take m false i (i + m.length)

def operatorMark (m : String) : Read Node := do
  let i ← operatorStart
  ensure ((← read).mark? i == some m)
  take m false i (i + m.length)

/-- The mark `m`, even where a longer mark begins with it. -/
def markStart (m : String) : Read Node := do
  let i ← tokenStart
  ensure ((← read).startsAt i m.toList)
  take m false i (i + m.length)

/-- The closing mark `m`, which may be missing at the end of the text. -/
def closer (m : String) : Read Node := do
  if (← next) == .finish then
    markBroken
    let i := (← get).pos
    take m false i i
  else mark m

def word (w : String) : Read Node := do
  let i ← tokenStart
  ensure ((← read).lexeme i == .word w)
  take w false i (i + w.length)

def oneWord (ws : List String) : Read Node := do
  match ← next with
  | .word w => if ws.contains w then word w else failure
  | _ => failure

def anyWord (type : String) : Read Node := do
  let i ← tokenStart
  match (← read).identifierEnd? i with
  | some j => take type true i j
  | none => failure

/-- Words that never name a variable. -/
def reserved : List String :=
  ["break", "case", "catch", "class", "const", "continue", "debugger", "default", "delete", "do",
   "else", "export", "extends", "finally", "for", "function", "if", "import", "in", "instanceof",
   "new", "return", "super", "switch", "this", "throw", "try", "typeof", "var", "void", "while",
   "with", "true", "false", "null"]

def identifier (type : String) : Read Node := do
  match ← next with
  | .word w => if reserved.contains w then failure else anyWord type
  | _ => failure

/-- Whether a statement may end here with no semicolon. -/
def semicolonHere (afterOperand : Bool) : Read Bool := do
  return (← read).semicolonAt afterOperand false (← get).pos

/-- What the next token begins with where an operator may stand, unless the statement ends. -/
def operatorNext (context : Context) : Read Lexeme := do
  if context.lineEnds then
    if ← semicolonHere true then return .finish
  return (← read).lexeme (← operatorStart)

def many {α : Type} (p : Read α) : Read (List α) := do
  let pos := (← get).pos
  go ((← read).fuel pos)
where
  go : Nat → Read (List α)
    | 0 => pure []
    | fuel + 1 => do
      let pos := (← get).pos
      match ← optional p with
      | none => pure []
      | some a => if (← get).pos = pos then pure [a] else return a :: (← go fuel)

/-- Grow a value for as long as `step` finds a larger one. -/
def grow {α : Type} (step : α → Read (Option α)) (a : α) : Read α := do
  let pos := (← get).pos
  go ((← read).fuel pos) a
where
  go : Nat → α → Read α
    | 0, a => pure a
    | fuel + 1, a => do
      match ← step a with
      | none => pure a
      | some b => go fuel b

def toList {α : Type} : Option α → List α
  | none => []
  | some a => [a]

def maybe {α : Type} (p : Read α) : Read (List α) := toList <$> optional p

/-- Items up to a closing mark with commas between them. An item may be missing, and a last comma
may stand. -/
def commaList (item : Read (List Node)) (close : Read Node) : Read (List Node) := do
  let first ← (·.getD []) <$> optional item
  let rest ← many do
    let comma ← mark ","
    let next ← (·.getD []) <$> optional item
    return comma :: next
  let close ← close
  return first ++ rest.flatten ++ [close]

/-- The end of a statement: a semicolon, or a place where none is needed. Where both are missing
the text is broken. -/
def endStatement (afterOperand : Bool) : Read (List Node) := do
  if ← semicolonHere afterOperand then pure []
  else
    match ← optional (mark ";") with
    | some semicolon => pure [semicolon]
    | none => markBroken; pure []

end AsyncActions.Grammar
