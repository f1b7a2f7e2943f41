import AsyncActions.Terminal.Markup
import AsyncActions.Terminal.Wrap

/-!
# Frames

Boxes around content. What a box holds is written as markup or as styled text.
-/

namespace AsyncActions.Terminal

/-- Text to be shown, whose markup is not yet read. -/
inductive Content where
  | markup (text : String)
  | styled (t : Styled)
  deriving DecidableEq, Repr

namespace Content

def read : Content → Except MarkupError Styled
  | markup text => Markup.read text
  | styled t => .ok t

end Content

/-- A row of a frame: its ends, what fills it, and what stands between columns. -/
structure Edge where
  left : Char
  fill : Char
  cross : Char
  right : Char

namespace Edge

def draw (e : Edge) (widths : List Nat) : List Char :=
  e.left :: [e.cross].intercalate (widths.map fun w => List.replicate w e.fill) ++ [e.right]

end Edge

/-- The rows of a frame: above, beside what it holds, under the head of a table, and below. -/
structure Frame where
  top : Edge
  side : Edge
  underHead : Edge
  bottom : Edge

namespace Frame

def rounded : Frame where
  top := ⟨'╭', '─', '┬', '╮'⟩
  side := ⟨'│', ' ', '│', '│'⟩
  underHead := ⟨'├', '─', '┼', '┤'⟩
  bottom := ⟨'╰', '─', '┴', '╯'⟩

def blankEdge : Edge := ⟨' ', ' ', ' ', ' '⟩

/-- A frame of which only the line under the head of a table is seen. -/
def simple : Frame where
  top := blankEdge
  side := blankEdge
  underHead := ⟨' ', '─', '─', ' '⟩
  bottom := blankEdge

def invisible : Frame := { simple with underHead := blankEdge }

end Frame

/-- Lines with a blank on either side, which fill a width. -/
def padded (width : Nat) (lines : List Line) : List Line :=
  lines.map fun l => .blank 1 .none :: l.fit (width - 2) .none ++ [.blank 1 .none]

/-! ## Panels -/

/-- The upper edge of a panel, with the title in its middle if there is room for one. -/
def titledEdge (e : Edge) (style : Style) (width : Nat) (title : Option String) : Line :=
  match title with
  | none => [⟨e.draw [width], style⟩]
  | some title =>
    if width ≤ 2 then [⟨e.draw [width], style⟩]
    else
      let text := (Styled.ofText (" " ++ title ++ " ") style).truncate (width - 2) .fold
      let rest := width - 2 - cells text.chars
      let fill (n : Nat) : Line := if n = 0 then [] else [⟨List.replicate n e.fill, style⟩]
      ⟨[e.left, e.fill], style⟩ ::
        fill (rest / 2) ++ text.toLine ++ fill (rest - rest / 2) ++ [⟨[e.fill, e.right], style⟩]

/-- A frame as wide as the terminal around content, which is given as lines for each width. -/
def panel (frame : Frame) (style : Style) (title : Option String) (width : Nat)
    (content : Nat → List Line) : List Line :=
  let inner := width - 2
  let rows := (padded inner (content (inner - 2))).map fun l =>
    ⟨[frame.side.left], style⟩ :: l ++ [⟨[frame.side.right], style⟩]
  titledEdge frame.top style inner title :: rows ++ [[⟨frame.bottom.draw [inner], style⟩]]

end AsyncActions.Terminal
