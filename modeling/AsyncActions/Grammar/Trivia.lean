import AsyncActions.Grammar.Input

/-!
# White space and comments

What may stand between two tokens, and where a statement ends without a semicolon.
-/

namespace AsyncActions.Grammar

def isLineBreak (c : Char) : Bool := c = '\n' || c = '\u2028' || c = '\u2029'

def isAsciiSpace (c : Char) : Bool := c = ' ' || ('\t' ≤ c && c ≤ '\r')

/-- White space between tokens: the ASCII spaces, the separators of Unicode, and the marks of
width zero. -/
def isSpace (c : Char) : Bool :=
  isAsciiSpace c || isLineBreak c || c = '\u00A0' || c = '\u1680' || ('\u2000' ≤ c && c ≤ '\u200B') ||
    c = '\u202F' || c = '\u205F' || c = '\u2060' || c = '\u3000' || c = '\uFEFF'

def isBreakingSpace (c : Char) : Bool :=
  isAsciiSpace c || isLineBreak c || c = '\u1680' ||
    ('\u2000' ≤ c && c ≤ '\u200A' && c ≠ '\u2007') || c = '\u205F' || c = '\u3000'

namespace Input

variable (input : Input)

def blockCommentEnd? (i : Nat) : Option Nat :=
  if h : i < input.chars.size then
    if input.isAt i '*' && input.isAt (i + 1) '/' then some (i + 2) else blockCommentEnd? (i + 1)
  else none
termination_by input.chars.size - i

/-- A line that markup hides from an old reader. -/
def hiddenLine? (i : Nat) : Option Nat :=
  if input.startsAt i ['<', '!', '-', '-'] || input.startsAt i ['-', '-', '>'] then
    some (input.skipWhile (fun c => !isLineBreak c) i)
  else none

/-- Past one comment that starts at `i`. A hidden line counts only where no operator may stand. -/
def commentEnd? (afterOperand : Bool) (i : Nat) : Option Nat :=
  if input.startsAt i ['/', '/'] then
    some (input.skipWhile (fun c => !isLineBreak c && c ≠ '\r') i)
  else if input.startsAt i ['/', '*'] then input.blockCommentEnd? (i + 2)
  else if afterOperand then none
  else input.hiddenLine? i

def skipTrivia (afterOperand : Bool) (i : Nat) : Nat :=
  go (input.fuel i) i
where
  go : Nat → Nat → Nat
    | 0, i => i
    | fuel + 1, i =>
      let i := input.skipWhile isSpace i
      match input.commentEnd? afterOperand i with
      | some j => go fuel j
      | none => i

/-! ## Statements that end without a semicolon -/

/-- What lies between a token and the next: nothing that a comment may start, a comment with no
line break before its end, or anything else. -/
inductive Gap where
  | rejected
  | sameLine
  | accepted
  deriving DecidableEq

def brokenBetween (i j : Nat) : Bool := (input.chars.extract i j).any isLineBreak

/-- Skip white space and comments from `i` on. Unless all comments are to be skipped, stop after
a block comment. -/
def gap (all : Bool) (i : Nat) : Gap × Nat :=
  go (input.fuel i) false i
where
  go : Nat → Bool → Nat → Gap × Nat
    | 0, _, i => (.rejected, i)
    | fuel + 1, broken, i =>
      let i := input.skipWhile isBreakingSpace i
      if !input.isAt i '/' then (.accepted, i)
      else if input.isAt (i + 1) '/' then
        go fuel broken (input.skipWhile (fun c => !isLineBreak c) (i + 2))
      else if input.isAt (i + 1) '*' then
        match input.blockCommentEnd? (i + 2) with
        | none => (.accepted, input.chars.size)
        | some j =>
          let broken := broken || input.brokenBetween i j
          if !all && !input.language.hasTypes && !input.isAt j '/' then
            (if broken then .accepted else .sameLine, j)
          else go fuel broken j
      else (.rejected, i)

/-- The character continues a word that starts with a keyword operator. -/
def isLetterAt (i : Nat) : Bool := input.holds i fun c => c.isAlpha || '\x7f' < c

def isWordOperatorAt (i : Nat) : Bool :=
  input.startsAt i ['i', 'n'] &&
    (!input.isLetterAt (i + 2) ||
      (input.startsAt (i + 2) "stanceof".toList && !input.isLetterAt (i + 10)))

/-- After a line break the token at `i` does not go on with the statement. `afterOperand` says
that an operator could stand here, `bodyMayFollow` that a block could. -/
def startsStatement (afterOperand bodyMayFollow : Bool) (i : Nat) : Bool :=
  match input.chars[i]? with
  | none => true
  | some c =>
    if c = '\x60' || ",:;*%><=?^|&/".contains c then false
    else if c = '(' || c = '[' then input.language.hasTypes && !afterOperand
    else if c = '\x7b' then !(input.language.hasTypes && bodyMayFollow)
    else if c = '.' then !input.language.hasTypes && input.holds (i + 1) Char.isDigit
    else if c = '+' || c = '-' then input.isAt (i + 1) c
    else if c = '!' then !input.isAt (i + 1) '='
    else !input.isWordOperatorAt i

/-- A closing brace ends the statement, unless a type annotation follows it. -/
def endsAtBrace (afterOperand : Bool) (i : Nat) : Bool :=
  if input.language.hasTypes && input.isAt (input.skipWhile isBreakingSpace (i + 1)) ':' then
    afterOperand
  else true

/-- One look for the end of a statement, with at most one run of comments. -/
def semicolonWithin (afterOperand bodyMayFollow : Bool) : Nat → Nat → Bool
  | 0, _ => false
  | fuel + 1, i =>
    match input.chars[i]? with
    | none => true
    | some '/' =>
      if input.language.hasTypes then false
      else
        match input.gap false i with
        | (.rejected, _) => false
        | (g, j) =>
          if g = .accepted && !afterOperand && !input.isAt j ',' && !input.isAt j '=' then true
          else step fuel j
    | some _ => step fuel i
where
  step (fuel : Nat) (i : Nat) : Bool :=
    match input.chars[i]? with
    | none => false
    | some c =>
      if c = '\x7d' then input.endsAtBrace afterOperand i
      else if c = '\n' || (isLineBreak c && !input.language.hasTypes) then
        match input.gap true (i + 1) with
        | (.rejected, _) => false
        | (_, j) => input.startsStatement afterOperand bodyMayFollow j
      else if isBreakingSpace c then semicolonWithin afterOperand bodyMayFollow fuel (i + 1)
      else false

/-- Where a statement that comes to `i` ends with no semicolon: before the end of the text, before
a closing brace, or at a line break before a token that cannot go on with it. Comments may stand
between `i` and that place. -/
def semicolonPlace? (afterOperand bodyMayFollow : Bool) (i : Nat) : Option Nat :=
  go (input.fuel i) i
where
  go : Nat → Nat → Option Nat
    | 0, _ => none
    | fuel + 1, i =>
      if input.semicolonWithin afterOperand bodyMayFollow (input.fuel i) i then some i
      else (input.commentEnd? true (input.skipWhile isSpace i)).bind (go fuel)

def semicolonAt (afterOperand bodyMayFollow : Bool) (i : Nat) : Bool :=
  (input.semicolonPlace? afterOperand bodyMayFollow i).isSome

end Input

end AsyncActions.Grammar
