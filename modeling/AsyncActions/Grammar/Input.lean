import AsyncActions.Language
import AsyncActions.Tree.Node

/-!
# The text under the reader

A source as an array of characters, with the place of each in the bytes. A byte that encodes no
character counts as one replacement character, so places never drift.
-/

namespace AsyncActions.Grammar

/-- Where a character stands: its byte offset, its row and its column in bytes. -/
structure Place where
  offset : Nat
  row : Nat
  column : Nat
  deriving Inhabited

def Place.after (p : Place) (c : Char) (width : Nat) : Place :=
  if c = '\n' then ⟨p.offset + width, p.row + 1, 0⟩ else ⟨p.offset + width, p.row, p.column + width⟩

def Place.point (p : Place) : Point := ⟨p.row, p.column⟩

/-- The characters of a source, and their places; the last place is the end. -/
structure Input where
  language : Language
  chars : Array Char
  places : Array Place

namespace Input

def ofBytes (language : Language) (source : Bytes) : Input :=
  let units := Utf8.units source
  let start : Place := ⟨0, 0, 0⟩
  let places := units.foldl (fun (ps, p) (c, width) => (ps.push (p.after c width), p.after c width))
    (#[start], start)
  { language, chars := (units.map Prod.fst).toArray, places := places.1 }

variable (input : Input)

def place (i : Nat) : Place := input.places.getD i (input.places.back?.getD default)

def extent (i j : Nat) : Extent :=
  let a := input.place i
  let b := input.place j
  ⟨a.offset, b.offset, a.point, b.point⟩

def holds (i : Nat) (p : Char → Bool) : Bool := input.chars[i]?.any p

def isAt (i : Nat) (c : Char) : Bool := input.chars[i]? == some c

def startsAt (i : Nat) : List Char → Bool
  | [] => true
  | c :: cs => input.isAt i c && startsAt (i + 1) cs

def text (i j : Nat) : String := String.ofList (input.chars.extract i j).toList

def skipWhile (p : Char → Bool) (i : Nat) : Nat :=
  if h : i < input.chars.size then
    if p input.chars[i] then skipWhile p (i + 1) else i
  else i
termination_by input.chars.size - i

/-- More steps than any walk through the characters from `i` on can take. -/
def fuel (i : Nat) : Nat := input.chars.size - i + 1

end Input

end AsyncActions.Grammar
