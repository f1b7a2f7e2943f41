import AsyncActions.Terminal.ColorTable
import AsyncActions.Text.Case

/-!
# Colours

Colours by name, by number and by shade. A terminal that has only sixteen colours shows the one
that is closest.
-/

namespace AsyncActions.Terminal

/-- Red, green and blue, each up to 255. -/
structure Shade where
  red : Nat
  green : Nat
  blue : Nat
  deriving DecidableEq, Repr

inductive Hue where
  /-- The colour that text has without a style. -/
  | ground
  | number (n : Nat)
  | shade (s : Shade)
  deriving DecidableEq, Repr

structure Color where
  text : String
  hue : Hue
  deriving DecidableEq, Repr

/-- Why a text describes no colour. A number that is missing is an error of its own kind. -/
inductive ColorError where
  | unknown
  | missingNumber
  deriving DecidableEq, Repr

namespace Shade

/-- The shade of one of the 240 numbered colours after the first sixteen. -/
def ofNumber (n : Nat) : Shade :=
  if n < 232 then
    let step (i : Nat) := (cubeSteps[i % 6]?).getD 0
    ⟨step ((n - 16) / 36), step ((n - 16) / 6), step (n - 16)⟩
  else ⟨8 + 10 * (n - 232), 8 + 10 * (n - 232), 8 + 10 * (n - 232)⟩

def difference (a b : Nat) : Nat := (a - b) + (b - a)

def distance (a b : Shade) : Nat :=
  let mean := (a.red + b.red) / 2
  let red := difference a.red b.red
  let green := difference a.green b.green
  let blue := difference a.blue b.blue
  (512 + mean) * red * red / 256 + 4 * green * green + (767 - mean) * blue * blue / 256

/-- The number of the first of the shades that is closest. -/
def closest (s : Shade) (best : Nat × Nat) (n : Nat) : List (Nat × Nat × Nat) → Nat
  | [] => best.1
  | (r, g, b) :: shades =>
    let d := s.distance ⟨r, g, b⟩
    closest s (if d < best.2 then (n, d) else best) (n + 1) shades

def standard (s : Shade) : Nat := closest s (0, s.distance ⟨0, 0, 0⟩) 0 standardShades

end Shade

namespace Color

def hexDigit? (c : Char) : Option Nat :=
  if c.isDigit then some (c.toNat - '0'.toNat)
  else if 'a' ≤ c && c ≤ 'f' then some (c.toNat - 'a'.toNat + 10)
  else none

def digit? (c : Char) : Option Nat :=
  (digitZeros.find? fun first => first ≤ c.toNat && c.toNat < first + 10).map (c.toNat - ·)

def ofDigits (digits : List Nat) : Nat := digits.foldl (fun n d => 10 * n + d) 0

def between? (opening closing : String) (cs : List Char) : Option (List Char) :=
  let opening := opening.toList
  let closing := closing.toList
  if opening.isPrefixOf cs && closing.isSuffixOf cs && opening.length + closing.length ≤ cs.length then
    some ((cs.drop opening.length).take (cs.length - opening.length - closing.length))
  else none

def splitAt (separator : Char) : List Char → List (List Char)
  | [] => [[]]
  | c :: cs =>
    if c = separator then [] :: splitAt separator cs
    else
      match splitAt separator cs with
      | p :: ps => (c :: p) :: ps
      | [] => [[c]]

def shadeOf (cs : List Char) : Except ColorError Shade :=
  match (splitAt ',' cs).mapM (·.mapM digit?) with
  | some [red, green, blue] =>
    let s : Shade := ⟨ofDigits red, ofDigits green, ofDigits blue⟩
    if red = [] ∨ green = [] ∨ blue = [] then .error .missingNumber
    else if s.red ≤ 255 ∧ s.green ≤ 255 ∧ s.blue ≤ 255 then .ok s
    else .error .unknown
  | _ => .error .unknown

def hueOf (cs : List Char) : Except ColorError Hue :=
  match cs with
  | '#' :: digits =>
    match digits.mapM hexDigit? with
    | some [a, b, c, d, e, f] => .ok (.shade ⟨16 * a + b, 16 * c + d, 16 * e + f⟩)
    | _ => .error .unknown
  | _ =>
    match between? "color(" ")" cs, between? "rgb(" ")" cs with
    | some digits, _ =>
      let n := ofDigits (digits.filterMap digit?)
      if digits ≠ [] ∧ digits.length ≤ 3 ∧ digits.all Char.isDigit ∧ n ≤ 255 then .ok (.number n)
      else .error .unknown
    | none, some inner => (shadeOf inner).map .shade
    | none, none => .error .unknown

def ofText (text : String) : Except ColorError Color :=
  let text := Text.lower text
  if text = "default" then .ok ⟨text, .ground⟩
  else
    match colorNames.lookup text with
    | some n => .ok ⟨text, .number n⟩
    | none => (hueOf text.toList).map (⟨text, ·⟩)

/-- The code of a colour for letters, or else for the ground behind them. -/
def code (ground : Bool) (c : Color) : String :=
  let ofStandard (n : Nat) : Nat := (if n < 8 then 30 + n else 82 + n) + (if ground then 10 else 0)
  match c.hue with
  | .ground => if ground then "49" else "39"
  | .number n => toString (ofStandard (if n < 16 then n else (Shade.ofNumber n).standard))
  | .shade s => toString (ofStandard s.standard)

end Color

end AsyncActions.Terminal
