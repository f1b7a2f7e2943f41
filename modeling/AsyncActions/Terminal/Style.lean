import AsyncActions.Terminal.Color
import AsyncActions.Text.Space

/-!
# Styles

How text looks: its colours and attributes. A style says nothing about what it does not mention,
so styles can be laid over each other.
-/

namespace AsyncActions.Terminal

inductive Attribute where
  | bold
  | dim
  | italic
  | underline
  | blink
  | blink2
  | reverse
  | conceal
  | strike
  | underline2
  | frame
  | encircle
  | overline
  deriving DecidableEq, Repr

namespace Attribute

/-- The attributes, each with its code, its name and its short name, if it has one. -/
def all : List (Attribute × String × String × Option String) :=
  [(bold, "1", "bold", some "b"), (dim, "2", "dim", some "d"), (italic, "3", "italic", some "i"),
   (underline, "4", "underline", some "u"), (blink, "5", "blink", none),
   (blink2, "6", "blink2", none), (reverse, "7", "reverse", some "r"),
   (conceal, "8", "conceal", some "c"), (strike, "9", "strike", some "s"),
   (underline2, "21", "underline2", some "uu"), (frame, "51", "frame", none),
   (encircle, "52", "encircle", none), (overline, "53", "overline", some "o")]

def ofText? (text : String) : Option Attribute :=
  (all.find? fun (_, _, name, short) => name = text || short = some text).map Prod.fst

end Attribute

/-- Colours of letters and ground, attributes that are on or off, and a place that text links to. -/
structure Style where
  color : Option Color
  ground : Option Color
  attributes : List (Attribute × Bool)
  link : Option String
  deriving DecidableEq, Repr

namespace Style

def none : Style := ⟨.none, .none, [], .none⟩

/-- The style `a` with `b` laid over it. -/
def under (a b : Style) : Style :=
  ⟨b.color <|> a.color, b.ground <|> a.ground,
   b.attributes ++ a.attributes.filter fun (x, _) => (b.attributes.lookup x).isNone,
   b.link <|> a.link⟩

def withAttribute (s : Style) (x : Attribute) (on : Bool) : Style :=
  s.under { none with attributes := [(x, on)] }

/-- The style that words describe, laid over one that is known. -/
def ofWords (s : Style) : List String → Except ColorError Style
  | [] => .ok s
  | "on" :: word :: words => do
    let c ← Color.ofText word
    ofWords { s with ground := some c } words
  | "not" :: word :: words =>
    match Attribute.ofText? word with
    | some x => ofWords (s.withAttribute x false) words
    | .none => .error .unknown
  | "link" :: word :: words => ofWords { s with link := some word } words
  | word :: words =>
    match Attribute.ofText? word with
    | some x => ofWords (s.withAttribute x true) words
    | .none => do
      let c ← Color.ofText word
      ofWords { s with color := some c } words

/-- The style that a text describes. Letter case does not matter for the words themselves. -/
def ofText (text : String) : Except ColorError Style :=
  if Text.strip text.toList = "none".toList then .ok none
  else
    let words := (Text.words text.toList).map fun w => String.ofList (Text.strip w)
    ofWords none (lowered words)
where
  /-- Lower case, except for what follows a word that takes another. -/
  lowered : List String → List String
    | [] => []
    | [word] => [Text.lower word]
    | word :: next :: words =>
      if Text.lower word ∈ ["on", "not", "link"] then Text.lower word :: next :: lowered words
      else Text.lower word :: lowered (next :: words)

def text (s : Style) : String :=
  let attributes := Attribute.all.filterMap fun (x, _, name, _) =>
    (s.attributes.lookup x).map fun on => if on then name else "not " ++ name
  let color := s.color.toList.map Color.text
  let ground := s.ground.toList.flatMap fun c => ["on", c.text]
  let link := s.link.toList.flatMap fun l => ["link", l]
  let parts := attributes ++ color ++ ground ++ link
  if parts = [] then "none" else " ".intercalate parts

/-- The text of the style that a text describes; what describes none is only tidied up. -/
def normalText (text : String) : Except ColorError String :=
  match ofText text with
  | .ok s => .ok s.text
  | .error .unknown => .ok (Text.lower (String.ofList (Text.strip text.toList)))
  | .error .missingNumber => .error .missingNumber

def codes (s : Style) : List String :=
  (Attribute.all.filterMap fun (x, code, _, _) =>
    if s.attributes.lookup x = some true then some code else .none) ++
  s.color.toList.map (Color.code false) ++ s.ground.toList.map (Color.code true)

def paint (s : Style) (text : String) : String :=
  if text = "" ∨ s.codes = [] then text
  else "\x1b[" ++ ";".intercalate s.codes ++ "m" ++ text ++ "\x1b[0m"

end Style

end AsyncActions.Terminal
