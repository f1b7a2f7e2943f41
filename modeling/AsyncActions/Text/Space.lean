/-!
# White space

Characters that separate words, and text without them.
-/

namespace AsyncActions.Text

def isSpace (c : Char) : Bool :=
  c = ' ' || ('\t' ≤ c && c ≤ '\r') || ('\x1c' ≤ c && c ≤ '\x1f') || c = '\u0085' ||
    c = '\u00A0' || c = '\u1680' || ('\u2000' ≤ c && c ≤ '\u200A') || c = '\u2028' ||
    c = '\u2029' || c = '\u202F' || c = '\u205F' || c = '\u3000'

def stripEnd (cs : List Char) : List Char := (cs.reverse.dropWhile isSpace).reverse

def strip (cs : List Char) : List Char := stripEnd (cs.dropWhile isSpace)

/-- The words of a text, each with the white space after it; the first has that before it too. A
text of white space has no words. -/
def words : List Char → List (List Char)
  | [] => []
  | c :: cs =>
    match words cs with
    | [] => if isSpace c then [] else [c :: cs]
    | w :: ws =>
      if isSpace c || !cs.head?.any isSpace then (c :: w) :: ws
      else (c :: w.takeWhile isSpace) :: w.dropWhile isSpace :: ws

end AsyncActions.Text
