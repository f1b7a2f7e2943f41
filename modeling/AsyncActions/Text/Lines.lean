/-!
# Lines

Besides the line feed, several other characters end a line.
-/

namespace AsyncActions.Text

def endsLine (c : Char) : Bool :=
  ('\n' ≤ c && c ≤ '\r') || ('\x1c' ≤ c && c ≤ '\x1e') || c = '\u0085' || c = '\u2028' ||
    c = '\u2029'

def firstLine (cs : List Char) : List Char := cs.takeWhile fun c => !endsLine c

/-- The lines of a text. What ends the last line starts no other one. -/
def lines : List Char → List (List Char)
  | [] => []
  | '\r' :: '\n' :: cs => [] :: lines cs
  | c :: cs =>
    if endsLine c then [] :: lines cs
    else
      match lines cs with
      | [] => [[c]]
      | l :: ls => (c :: l) :: ls

end AsyncActions.Text
