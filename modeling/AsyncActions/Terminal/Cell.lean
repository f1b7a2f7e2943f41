import AsyncActions.Terminal.CellTable
import AsyncActions.Text.Case

/-!
# Cells

The width of text on a terminal, counted in cells, and text cut to a width. Characters that are
shown as one are a cluster: a letter with its marks, a picture joined to the next one, a sign that
is asked to look like a picture.
-/

namespace AsyncActions.Terminal

/-- Characters of ordinary text, which all take one cell. -/
def isPlain (c : Char) : Bool := ' ' ≤ c && c ≤ '~'

def cellWidth (c : Char) : Nat :=
  if isPlain c then 1
  else if Text.inRanges zeroRanges c then 0
  else if Text.inRanges wideRanges c then 2
  else 1

/-- Joins the picture after it to the one before it. -/
def joiner : Char := '\u200D'

/-- Asks the sign before it to look like a picture. -/
def pictureSelector : Char := '\uFE0F'

def isWidened (c : Char) : Bool := Text.inRanges widenedRanges c

/-- The cells of the text after a character that takes some; the next one may be joined to it. -/
def cellsAfter (last : Option Char) (joined : Bool) : List Char → Nat
  | [] => 0
  | c :: cs =>
    if joined then cellsAfter last false cs
    else if c = joiner then cellsAfter last true cs
    else if c = pictureSelector then
      (if last.any isWidened then 1 else 0) + cellsAfter none false cs
    else if cellWidth c = 0 then cellsAfter last false cs
    else cellWidth c + cellsAfter (some c) false cs

def cells (cs : List Char) : Nat :=
  if cs.all isPlain then cs.length else cellsAfter none false cs

/-- Characters that are shown as one, and the cells they take. -/
structure Cluster where
  text : List Char
  cells : Nat

namespace Cluster

def add (k : Cluster) (c : Char) (more : Nat) : Cluster := ⟨k.text ++ [c], k.cells + more⟩

def single (c : Char) : Cluster := ⟨[c], cellWidth c⟩

def after (known : List Cluster) (last : Option Char) (joined : Bool) : List Char → List Cluster
  | [] => known.reverse
  | c :: cs =>
    match known with
    | [] =>
      if c = joiner ∨ c = pictureSelector then after [⟨[c], 0⟩] last false cs
      else after [single c] (if cellWidth c = 0 then last else some c) false cs
    | k :: ks =>
      if joined then after (k.add c 0 :: ks) last false cs
      else if c = joiner then after (k.add c 0 :: ks) last true cs
      else if c = pictureSelector then
        if last.any isWidened then after (k.add c 1 :: ks) none false cs
        else after (k.add c 0 :: ks) last false cs
      else if cellWidth c = 0 then after (k.add c 0 :: ks) last false cs
      else after (single c :: k :: ks) (some c) false cs

end Cluster

def clusters (cs : List Char) : List Cluster := Cluster.after [] none false cs

/-- The start of a text that fills `n` cells. A wide cluster that would be cut is a blank. -/
def takeCells (n : Nat) : List Cluster → List Char
  | [] => []
  | k :: ks =>
    if n = 0 then []
    else if k.cells ≤ n then k.text ++ takeCells (n - k.cells) ks
    else [' ']

/-- The text with blanks after it, or cut, so that it fills `n` cells. -/
def fitCells (n : Nat) (cs : List Char) : List Char :=
  let size := cells cs
  if size ≤ n then cs ++ List.replicate (n - size) ' '
  else if cs.all isPlain then cs.take n
  else takeCells n (clusters cs)

/-- Clusters in lines of at most `width` cells; `line` has `size` of them. -/
def chopAfter (width size : Nat) (line : List Char) : List Cluster → List (List Char)
  | [] => if size = 0 then [] else [line]
  | k :: ks =>
    if width < size + k.cells then line :: chopAfter width k.cells k.text ks
    else chopAfter width (size + k.cells) (line ++ k.text) ks

def chop (width : Nat) (cs : List Char) : List (List Char) := chopAfter width 0 [] (clusters cs)

end AsyncActions.Terminal
