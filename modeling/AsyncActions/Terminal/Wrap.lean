import AsyncActions.Terminal.Styled
import AsyncActions.Text.Lines

/-!
# Lines of a width

Text is broken between words so that its lines fit a width. A word that is too long is folded
over several lines, or cut at the width and marked by an ellipsis.
-/

namespace AsyncActions.Terminal

inductive Placement where
  | loose
  | left
  | center
  | right
  deriving DecidableEq, Repr

inductive Overflow where
  | fold
  | ellipsis
  deriving DecidableEq, Repr

/-- The starts of parts that follow each other, the first at `start`. A part that starts a text
breaks nothing. -/
def starts (start : Nat) : List (List Char) → List Nat
  | [] => []
  | p :: ps => (if start = 0 then [] else [start]) ++ starts (start + p.length) ps

/-- Where to break a line; the next word starts at `start`, and `filled` cells are taken. -/
def breaksFrom (width : Nat) (overflow : Overflow) (start filled : Nat) :
    List (List Char) → List Nat
  | [] => []
  | word :: words =>
    let next := start + word.length
    let size := cells (Text.stripEnd word)
    if filled + size ≤ width then breaksFrom width overflow next (filled + cells word) words
    else if width < size then
      match overflow with
      | .fold =>
        let parts := chop width word
        starts start parts ++
          breaksFrom width overflow next ((parts.getLast?.map cells).getD filled) words
      | .ellipsis =>
        starts start [word] ++ breaksFrom width overflow next (cells word) words
    else if filled ≠ 0 ∧ start ≠ 0 then
      start :: breaksFrom width overflow next (cells word) words
    else breaksFrom width overflow next filled words

def breaks (width : Nat) (overflow : Overflow) (cs : List Char) : List Nat :=
  breaksFrom width overflow 0 0 (Text.words cs)

namespace Styled

def truncate (width : Nat) (overflow : Overflow) (t : Styled) : Styled :=
  if cells t.chars ≤ width then t
  else
    match overflow with
    | .fold => t.withChars (fitCells width t.chars)
    | .ellipsis => t.withChars (fitCells (width - 1) t.chars ++ ['…'])

def align (width : Nat) (placement : Placement) (overflow : Overflow) (t : Styled) : Styled :=
  let missing (t : Styled) := width - cells t.chars
  match placement with
  | .loose => t
  | .left =>
    if cells t.chars < width then t.padRight (missing t) else t.truncate width overflow
  | .center =>
    let t := t.stripEnd.truncate width overflow
    let t := t.padLeft (missing t / 2)
    t.padRight (missing t)
  | .right =>
    let t := t.stripEnd.truncate width overflow
    t.padLeft (missing t)

def wrap (width : Nat) (placement : Placement) (overflow : Overflow) (t : Styled) : List Styled :=
  t.lines.flatMap fun line =>
    let line := line.expandTabs
    (line.divide (breaks width overflow line.chars)).map fun part =>
      ((part.stripPast width).align width placement overflow).truncate width overflow

/-- The lines of a text at a width, as segments. Where there is no room there are none. -/
def render (width : Nat) (placement : Placement) (overflow : Overflow) (t : Styled) : List Line :=
  if width = 0 then [] else (t.wrap width placement overflow).map toLine

def longest (t : Styled) : Nat := ((Text.lines t.chars).map cells).foldl max 0

end Styled

end AsyncActions.Terminal
