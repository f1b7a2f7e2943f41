import AsyncActions.Terminal.Frame

/-!
# Tables

Columns of cells with a head. A column has a fixed width, or is as wide as its longest cell; where
there is not enough room the free columns give way first, and then all of them evenly.
-/

namespace AsyncActions.Terminal

structure Column where
  head : String
  placement : Placement
  style : Style
  /-- The width without blanks; a free column has none. -/
  width : Option Nat

structure Table where
  title : Option String
  headStyle : Style
  frame : Frame
  columns : List Column
  rows : List (List Content)

namespace Table

/-- The blanks on both sides of a cell. -/
def padding : Nat := 2

/-! ## Widths -/

/-- `a / b` to the nearest number, a half to the even one. -/
def divideEvenly (a b : Nat) : Nat :=
  let q := a / b
  let r := a % b
  if 2 * r < b ∨ (2 * r = b ∧ q % 2 = 0) then q else q + 1

/-- Take `total` from widths in equal shares of which there are `shares` left. A width of zero
takes no part. -/
def takeShares (total shares : Nat) : List Nat → List Nat
  | [] => []
  | w :: ws =>
    if w = 0 ∨ shares = 0 then w :: takeShares total shares ws
    else
      let share := min w (divideEvenly total shares)
      (w - share) :: takeShares (total - share) (shares - 1) ws

def takeEvenly (total : Nat) (widths : List Nat) : List Nat :=
  takeShares total (widths.filter (· ≠ 0)).length widths

/-- The largest and the next smaller width of the free columns. -/
def largestTwo (columns : List (Nat × Bool)) : Nat × Nat :=
  let free := (columns.filter (·.2)).map Prod.fst
  let first := free.foldl max 0
  (first, (free.filter (· ≠ first)).foldl max 0)

/-- Take from the widest of the free columns in turn until the sum is `room`. Each round levels at
least one column with the next smaller one, so there are no more rounds than columns. -/
def collapse (rounds room : Nat) (columns : List (Nat × Bool)) : List (Nat × Bool) :=
  match rounds with
  | 0 => columns
  | rounds + 1 =>
    let excess := total (columns.map Prod.fst) - room
    let (first, second) := largestTwo columns
    if excess = 0 ∨ first = second then columns
    else
      let widest := columns.filter fun (w, free) => free && w = first
      collapse rounds room (reduce excess widest.length (min excess (first - second)) first columns)
where
  /-- Take `total` in equal shares, none larger than `limit`, from the columns of width `first`. -/
  reduce (total shares limit first : Nat) : List (Nat × Bool) → List (Nat × Bool)
    | [] => []
    | (w, free) :: cs =>
      if free && w = first && shares ≠ 0 then
        let share := min limit (divideEvenly total shares)
        (w - share, free) :: reduce (total - share) (shares - 1) limit first cs
      else (w, free) :: reduce total shares limit first cs

/-- The width that a column asks for when there is `room`, blanks included. -/
def measure (room : Nat) (c : Column) (cells : List Content) : Except MarkupError Nat :=
  if room = 0 then .ok 0
  else
    match c.width with
    | some w => .ok (min (w + padding) room)
    | none =>
      if room ≤ padding then .ok room
      else do
        let texts ← (.markup c.head :: cells).mapM Content.read
        return min ((texts.map fun t => t.longest + padding).foldl max 0) room

def columnCells (t : Table) : List (Column × List Content) :=
  t.columns.zipIdx.map fun (c, i) => (c, t.rows.filterMap (·[i]?))

def frameWidth (t : Table) : Nat := 2 + (t.columns.length - 1)

/-- The widths of the columns, blanks included, when there is `room` for them. -/
def widths (t : Table) (room : Nat) : Except MarkupError (List Nat) := do
  let wanted ← t.columnCells.mapM fun (c, cells) => measure room c cells
  let wanted := wanted.map fun w => if w = 0 then 1 else w
  if total wanted ≤ room then return wanted
  let free := t.columns.map (·.width.isNone)
  let narrowed := (collapse wanted.length room (wanted.zip free)).map Prod.fst
  let narrowed :=
    if total narrowed ≤ room then narrowed else takeEvenly (total narrowed - room) narrowed
  (t.columnCells.zip narrowed).mapM fun ((c, cells), w) => measure w c cells

/-! ## Rows -/

def cellLines (c : Column) (style : Style) (width : Nat) (content : Content) :
    Except MarkupError (List Line) := do
  if width ≤ padding then return []
  let t ← content.read
  let lines := padded width (t.render (width - padding) c.placement .ellipsis)
  return lines.map (Line.onto style)

/-- The lines of cells side by side. Those of the head stand at the bottom, others at the top. -/
def rowLines (frame : Frame) (atBottom : Bool) (cells : List (Nat × Style × List Line)) :
    List Line :=
  let height := (cells.map fun (_, _, lines) => lines.length).foldl max 0
  let filled := cells.map fun (width, style, lines) =>
    let missing : List Line := List.replicate (height - lines.length) [Segment.blank width style]
    if height = 0 then [[Segment.blank width .none]]
    else if atBottom then missing ++ lines
    else lines ++ missing
  (List.range (max height 1)).map fun n =>
    let parts := filled.map fun lines => (lines[n]?).getD []
    .plain [frame.side.left] :: [Segment.plain [frame.side.cross]].intercalate parts ++
      [.plain [frame.side.right]]

def row (t : Table) (widths : List Nat) (isHead : Bool) (cells : List Content) :
    Except MarkupError (List Line) := do
  let lines ← (widths.zip (t.columns.zip cells)).mapM fun (width, column, content) => do
    let style := if isHead then t.headStyle else column.style
    return (width, style, ← cellLines column style width content)
  return rowLines t.frame isHead lines

def titleStyle : Style := .named "table.title"

def render (t : Table) (width : Nat) : Except MarkupError (List Line) := do
  if width = 0 then return []
  let widths ← t.widths (width - t.frameWidth)
  let edge (e : Edge) : Line := [.plain (e.draw widths)]
  let title := t.title.toList.flatMap fun text =>
    (Styled.ofText text titleStyle).render (total widths + t.frameWidth) .center .fold
  let head ← t.row widths true (t.columns.map fun c => .markup c.head)
  let body ← t.rows.mapM (t.row widths false)
  return title ++ edge t.frame.top :: head ++ edge t.frame.underHead :: body.flatten ++
    [edge t.frame.bottom]

end Table

end AsyncActions.Terminal
