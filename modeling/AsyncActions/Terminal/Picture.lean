import AsyncActions.Terminal.PictureTable
import AsyncActions.Text.Case
import AsyncActions.Text.Space

/-!
# Pictures by name

A name between colons stands for a picture. After the name may stand whether the picture is to be
shown in colour or as a plain sign. What names no picture stays as it is written.
-/

namespace AsyncActions.Terminal

/-- The word after a given one, where words by twos belong together. -/
def partner? (name : String) : List String → Option String
  | a :: b :: rest => if a = name then some b else partner? name rest
  | _ => none

def picture? (name : String) : Option String :=
  pictureNames.findSome? fun names => partner? (Text.lower name) (names.splitOn " ")

/-- A name cut before its variant, and what asks for the variant. -/
def splitVariant (name : List Char) : List Char × List Char :=
  if "-emoji".toList.isSuffixOf name then (name.take (name.length - 6), ['\uFE0F'])
  else if "-text".toList.isSuffixOf name then (name.take (name.length - 5), ['\uFE0E'])
  else (name, [])

def drawName (name : List Char) : List Char :=
  let (base, variant) := splitVariant name
  match picture? (String.ofList base) with
  | some p => p.toList ++ variant
  | none => ':' :: name ++ [':']

/-- The text with pictures for names, after a colon and the characters of a name that may follow
it, the nearest first. -/
def drawAfter (name : Option (List Char)) : List Char → List Char
  | [] =>
    match name with
    | some ds => ':' :: ds.reverse
    | none => []
  | c :: cs =>
    match name with
    | none => if c = ':' then drawAfter (some []) cs else c :: drawAfter none cs
    | some ds =>
      if c = ':' then drawName ds.reverse ++ drawAfter none cs
      else if Text.isSpace c then ':' :: ds.reverse ++ c :: drawAfter none cs
      else drawAfter (some (c :: ds)) cs

def drawPictures (cs : List Char) : List Char := drawAfter none cs

end AsyncActions.Terminal
