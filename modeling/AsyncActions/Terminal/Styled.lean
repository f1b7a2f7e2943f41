import AsyncActions.Terminal.Line

/-!
# Styled text

Text of which some stretches have styles. Where stretches overlap, later ones lie over earlier
ones. All operations keep each stretch on the characters that it was on.
-/

namespace AsyncActions.Terminal

/-- A stretch of characters, from `start` to before `stop`. -/
structure Span where
  start : Nat
  stop : Nat
  style : Style
  deriving DecidableEq, Repr

/-- Text with a style of its own, which lies under its stretches. -/
structure Styled where
  chars : List Char
  base : Style
  spans : List Span
  deriving DecidableEq, Repr

/-- Controls that move what writes, and are left out. -/
def isControl (c : Char) : Bool := c = '\x07' || c = '\x08' || ('\x0b' ≤ c && c ≤ '\x0d')

def shown (cs : List Char) : List Char := cs.filter fun c => !isControl c

namespace Span

def moveRight (n : Nat) (s : Span) : Span := { s with start := s.start + n, stop := s.stop + n }

/-- The part of a stretch between two places, counted from the first. -/
def within? (first last : Nat) (s : Span) : Option Span :=
  let start := s.start - first
  let stop := min s.stop last - first
  if start < stop then some ⟨start, stop, s.style⟩ else none

end Span

namespace Styled

def ofText (text : String) (base : Style) : Styled := ⟨shown text.toList, base, []⟩

def empty : Styled := ⟨[], .none, []⟩

def length (t : Styled) : Nat := t.chars.length

def allSpans (t : Styled) : List Span :=
  if t.base = .none then t.spans else ⟨0, t.length, t.base⟩ :: t.spans

def append (a b : Styled) : Styled :=
  ⟨a.chars ++ b.chars, a.base, a.spans ++ b.allSpans.map (Span.moveRight a.length)⟩

def concat (texts : List Styled) : Styled := texts.foldl append empty

/-- The text with other characters. Stretches past the end end there. -/
def withChars (t : Styled) (cs : List Char) : Styled :=
  if cs.length < t.length then
    { t with
      chars := cs
      spans := (t.spans.filter (·.start < cs.length)).map fun s =>
        { s with stop := min s.stop cs.length } }
  else { t with chars := cs }

def slice (t : Styled) (first last : Nat) : Styled :=
  ⟨(t.chars.take last).drop first, t.base, t.spans.filterMap (Span.within? first last)⟩

/-- The text cut at places that are in order; `first` is where the next part starts. -/
def divideFrom (t : Styled) (first : Nat) : List Nat → List Styled
  | [] => [t.slice first t.length]
  | next :: places => t.slice first next :: t.divideFrom next places

def divide (t : Styled) (places : List Nat) : List Styled :=
  if places = [] then [t] else t.divideFrom 0 places

def placesOf (c : Char) (n : Nat) : List Char → List Nat
  | [] => []
  | d :: cs => if d = c then n :: placesOf c (n + 1) cs else placesOf c (n + 1) cs

def lines (t : Styled) : List Styled :=
  let places := placesOf '\n' 0 t.chars
  if places = [] then [t]
  else (t.divideFrom 0 (places.flatMap fun n => [n, n + 1])).filter (·.chars ≠ ['\n'])

/-- Blanks at the end, in the style of the last character. -/
def widen (t : Styled) (n : Nat) : Styled :=
  { t with
    chars := t.chars ++ List.replicate n ' '
    spans := t.spans.map fun s => if t.length ≤ s.stop then { s with stop := s.stop + n } else s }

def tabStep : Nat := 8

/-- Parts that end in tabs, with blanks in their place; `column` is where the first one starts. -/
def spread (column : Nat) : List Styled → List Styled
  | [] => []
  | part :: parts =>
    if part.chars.getLast? = some '\t' then
      let part := { part with chars := part.chars.dropLast ++ [' '] }
      let column := column + cells part.chars
      let missing := (tabStep - column % tabStep) % tabStep
      part.widen missing :: spread (column + missing) parts
    else part :: spread (column + cells part.chars) parts

def expandTabs (t : Styled) : Styled :=
  let places := placesOf '\t' 1 t.chars
  if places = [] then t
  else
    let parts := (spread 0 (t.divideFrom 0 places)).filter (·.chars ≠ [])
    { concat parts with base := t.base }

/-- White space past the first `size` characters is left out. -/
def stripPast (t : Styled) (size : Nat) : Styled :=
  let tail := t.length - (Text.stripEnd t.chars).length
  let excess := t.length - size
  if excess = 0 ∨ tail = 0 then t else t.withChars (t.chars.take (t.length - min tail excess))

def stripEnd (t : Styled) : Styled := t.withChars (Text.stripEnd t.chars)

def padLeft (n : Nat) (t : Styled) : Styled :=
  { t with chars := List.replicate n ' ' ++ t.chars, spans := t.spans.map (Span.moveRight n) }

def padRight (n : Nat) (t : Styled) : Styled :=
  { t with chars := t.chars ++ List.replicate n ' ' }

/-! ## As segments -/

/-- The places where the style may change, in order. -/
def borders (t : Styled) : List Nat :=
  ((0 :: t.length :: t.allSpans.flatMap fun s => [s.start, s.stop]).mergeSort (· ≤ ·)).eraseDups

def styleBetween (t : Styled) (first last : Nat) : Style :=
  (t.allSpans.filter fun s => s.start ≤ first && last ≤ s.stop).foldl (fun a s => a.under s.style) .none

def toLine (t : Styled) : Line :=
  let borders := t.borders
  (borders.zip borders.tail).map fun (first, last) =>
    ⟨(t.chars.take last).drop first, t.styleBetween first last⟩

end Styled

end AsyncActions.Terminal
