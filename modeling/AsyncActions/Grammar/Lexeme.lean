import AsyncActions.Grammar.Trivia

/-!
# Words and marks

The tokens whose form does not depend on where they stand: identifiers, keywords, punctuation,
numbers and strings. Each function looks at one place of the input and says where a token ends.
-/

namespace AsyncActions.Grammar

inductive Lexeme where
  | word (text : String)
  | mark (text : String)
  | privateName
  | number
  | string
  | template
  | finish
  | other
  deriving DecidableEq

def openBrace : String := "\x7b"
def closeBrace : String := "\x7d"

/-- Punctuation, longer marks before their beginnings. -/
def marks : List String :=
  [">>>=", "...", "===", "!==", "**=", "<<=", ">>=", ">>>", "&&=", "||=", "??=", "=>", "==", "!=",
   "++", "+=", "--", "-=", "**", "*=", "/=", "%=", "<<", "<=", ">>", ">=", "&&", "&=", "||", "|=",
   "??", "?.", "^=", openBrace, closeBrace, "(", ")", "[", "]", ";", ",", ".", "?", ":", "=", "!",
   "+", "-", "*", "/", "%", "<", ">", "&", "|", "^", "~", "@", "#"]

def isIdentifierPart (c : Char) : Bool :=
  ' ' ≤ c && !isSpace c && c ≠ '\x60' && c ≠ '\x22' && c ≠ '\x27' && c ≠ '\x7b' && c ≠ '\x7d' &&
    !":;@#.,|^&<=>+-*/\\%?!~()[]".contains c

def isIdentifierStart (c : Char) : Bool := isIdentifierPart c && !c.isDigit

def isHexDigit (c : Char) : Bool :=
  c.isDigit || ('a' ≤ c && c ≤ 'f') || ('A' ≤ c && c ≤ 'F')

namespace Input

variable (input : Input)

def exactly? (n : Nat) (p : Char → Bool) (i : Nat) : Option Nat :=
  if (List.range n).all fun k => input.holds (i + k) p then some (i + n) else none

def bracedHex? (i : Nat) : Option Nat :=
  let j := input.skipWhile isHexDigit (i + 1)
  if input.isAt i '\x7b' && i + 1 < j && input.isAt j '\x7d' then some (j + 1) else none

def unicodeEscape? (i : Nat) : Option Nat :=
  if input.startsAt i ['\\', 'u'] then
    (input.bracedHex? (i + 2)).or (input.exactly? 4 isHexDigit (i + 2))
  else none

def identifierTail (i : Nat) : Nat :=
  go (input.fuel i) i
where
  go : Nat → Nat → Nat
    | 0, i => i
    | fuel + 1, i =>
      let j := input.skipWhile isIdentifierPart i
      match input.unicodeEscape? j with
      | some k => go fuel k
      | none => j

def identifierEnd? (i : Nat) : Option Nat :=
  match input.unicodeEscape? i with
  | some j => some (input.identifierTail j)
  | none =>
    if input.holds i isIdentifierStart then some (input.identifierTail (i + 1)) else none

/-- The mark at `i`. A question mark and a point are one only where no number follows. -/
def mark? (i : Nat) : Option String :=
  (marks.find? fun m => input.startsAt i m.toList).map fun m =>
    if m = "?." && input.holds (i + 2) Char.isDigit then "?" else m

def lexeme (i : Nat) : Lexeme :=
  match input.chars[i]? with
  | none => .finish
  | some c =>
    if c.isDigit || (c = '.' && input.holds (i + 1) Char.isDigit) then .number
    else if c = '\x22' || c = '\x27' then .string
    else if c = '\x60' then .template
    else if c = '#' && (input.identifierEnd? (i + 1)).isSome then .privateName
    else
      match input.identifierEnd? i with
      | some j => .word (input.text i j)
      | none =>
        match input.mark? i with
        | some m => .mark m
        | none => .other

/-! ## Numbers -/

def isDigitOrBar (c : Char) : Bool := c.isDigit || c = '_'

/-- Past the digits of a radix after its letter, or past a decimal number. -/
def numberEnd (i : Nat) : Nat :=
  let letter := input.chars[i + 1]?.map Char.toLower
  if input.isAt i '0' && (letter = some 'x' || letter = some 'o' || letter = some 'b') then
    suffix (input.skipWhile (fun c => isHexDigit c || c = '_') (i + 2))
  else
    let whole := input.skipWhile isDigitOrBar i
    if input.isAt whole 'n' then whole + 1
    else
      let fraction :=
        if input.isAt whole '.' then input.skipWhile isDigitOrBar (whole + 1) else whole
      power fraction
where
  suffix (j : Nat) : Nat := if input.isAt j 'n' then j + 1 else j
  power (j : Nat) : Nat :=
    if input.holds j (fun c => c = 'e' || c = 'E') then
      let sign := if input.holds (j + 1) (fun c => c = '+' || c = '-') then j + 2 else j + 1
      if input.holds sign Char.isDigit then input.skipWhile isDigitOrBar sign else j
    else j

/-! ## Strings, templates and regular expressions -/

def escapeEnd? (i : Nat) : Option Nat :=
  match input.chars[i + 1]? with
  | none => none
  | some 'x' => input.exactly? 2 isHexDigit (i + 2)
  | some 'u' => (input.bracedHex? (i + 2)).or (input.exactly? 4 isHexDigit (i + 2))
  | some '\r' => some (if input.holds (i + 2) isLineBreak then i + 3 else i + 2)
  | some _ => some (i + 2)

/-- Past the string whose opening quote stands at `i`, if it ends on its line. -/
def stringEnd? (i : Nat) : Option Nat := do
  let quote ← input.chars[i]?
  go quote (input.fuel i) (i + 1)
where
  go (quote : Char) : Nat → Nat → Option Nat
    | 0, _ => none
    | fuel + 1, i => do
      let c ← input.chars[i]?
      if c = quote then some (i + 1)
      else if c = '\\' then (input.escapeEnd? i).bind (go quote fuel)
      else if c = '\n' || c = '\r' then none
      else go quote fuel (i + 1)

/-- Where the characters of a template from `i` on end: at its closing quote or at a
substitution. -/
def templateTextEnd? (i : Nat) : Option Nat :=
  go (input.fuel i) i
where
  go : Nat → Nat → Option Nat
    | 0, _ => none
    | fuel + 1, i => do
      let c ← input.chars[i]?
      if c = '\x60' || input.startsAt i ['$', '\x7b'] then some i
      else if c = '\\' then (input.escapeEnd? i).bind (go fuel)
      else go fuel (i + 1)

/-- Past the regular expression whose opening slash stands at `i`, flags included. A slash
inside a character class does not end it. -/
def regexEnd? (i : Nat) : Option Nat := do
  let close ← go (input.fuel i) false (i + 1)
  if close = i + 2 then none
  else some (input.skipWhile (fun c => 'a' ≤ c && c ≤ 'z') close)
where
  go : Nat → Bool → Nat → Option Nat
    | 0, _, _ => none
    | fuel + 1, inClass, i => do
      let c ← input.chars[i]?
      if c = '\n' then none
      else if c = '\\' then
        if input.holds (i + 1) (· ≠ '\n') then go fuel inClass (i + 2) else none
      else if c = '/' && !inClass then some (i + 1)
      else if c = '[' then go fuel true (i + 1)
      else if c = ']' then go fuel false (i + 1)
      else go fuel inClass (i + 1)

end Input

end AsyncActions.Grammar
