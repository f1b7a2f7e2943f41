import AsyncActions.Terminal.Cell
import AsyncActions.Terminal.Style

/-!
# Lines

A line of a terminal is a row of segments, each in one style.
-/

namespace AsyncActions.Terminal

structure Segment where
  text : List Char
  style : Style
  deriving DecidableEq, Repr

abbrev Line := List Segment

def total (widths : List Nat) : Nat := widths.foldl (· + ·) 0

namespace Segment

def plain (text : List Char) : Segment := ⟨text, .none⟩

def blank (n : Nat) (style : Style) : Segment := ⟨List.replicate n ' ', style⟩

def width (s : Segment) : Nat := cells s.text

end Segment

namespace Line

def width (l : Line) : Nat := total (l.map Segment.width)

/-- The line with what it says laid over a style. -/
def onto (style : Style) (l : Line) : Line := l.map fun s => { s with style := style.under s.style }

def crop (n : Nat) : Line → Line
  | [] => []
  | s :: l =>
    if s.width < n then s :: crop (n - s.width) l else [{ s with text := fitCells n s.text }]

def cut (n : Nat) (l : Line) : Line := if n < l.width then crop n l else l

/-- The line cut to `n` cells, or with blanks after it that fill them. -/
def fit (n : Nat) (style : Style) (l : Line) : Line :=
  if l.width < n then l ++ [.blank (n - l.width) style] else l.cut n

/-- What is sent to the terminal. Without colour, styles do not show. -/
def text (color : Bool) (l : Line) : String :=
  String.join (l.map fun s =>
    if color then s.style.paint (String.ofList s.text) else String.ofList s.text)

end Line

end AsyncActions.Terminal
