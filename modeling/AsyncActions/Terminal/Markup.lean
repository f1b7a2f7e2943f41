import AsyncActions.Terminal.Picture
import AsyncActions.Terminal.Styled
import AsyncActions.Terminal.TagValue
import AsyncActions.Terminal.Theme
import AsyncActions.Text.Quoted

/-!
# Markup

Text in which tags between square brackets switch styles on and off: a tag that starts with a
slash closes the one of that name, or the last one. A tag whose name starts with `@` names a handler,
and its value has to mean something when the tag is closed. A backslash before a tag takes its meaning
from it. Names between colons are pictures.
-/

namespace AsyncActions.Terminal

/-- What markup consists of. A tag has a name and, after an equals sign, perhaps a value. -/
inductive MarkupPart where
  | text (cs : List Char)
  | tag (place : Nat) (name : List Char) (value : Option (List Char))
  deriving DecidableEq, Repr

inductive MarkupError where
  | unopened (tag : String) (place : Nat)
  | nothingOpen (place : Nat)
  | value (text : String)
  | missingNumber
  deriving DecidableEq, Repr

def MarkupError.message : MarkupError → String
  | unopened tag place => s!"closing tag '{tag}' at position {place} doesn't match any open tag"
  | nothingOpen place => s!"closing tag '[/]' at position {place} has nothing to close"
  | value text => s!"error parsing {Text.quoted text}"
  | missingNumber => "invalid literal for int() with base 10: \x27\x27"

namespace Markup

def tagBody? (cs : List Char) : Option (List Char) :=
  match cs with
  | '[' :: c :: cs =>
    if ('a' ≤ c && c ≤ 'z') || c = '#' || c = '/' || c = '@' then
      let body := cs.takeWhile fun d => d ≠ '[' && d ≠ ']'
      if (cs.drop body.length).head? = some ']' then some (c :: body) else none
    else none
  | _ => none

def tagOf (place : Nat) (body : List Char) : MarkupPart :=
  let name := body.takeWhile (· ≠ '=')
  .tag place name (if name.length < body.length then some (body.drop (name.length + 1)) else none)

def flush (text : List Char) : List MarkupPart := if text = [] then [] else [.text text.reverse]

/-- The parts of markup from a place on, after some text, the nearest character first. -/
def partsFrom (place : Nat) (text : List Char) (cs : List Char) : List MarkupPart :=
  match cs with
  | [] => flush text
  | c :: rest =>
    let slashes := ((c :: rest).takeWhile (· = '\\')).length
    match tagBody? ((c :: rest).drop slashes) with
    | some body =>
      let after := (c :: rest).drop (slashes + body.length + 2)
      let kept := slashes / 2
      let literal := if kept = 0 then [] else [MarkupPart.text (List.replicate kept '\\')]
      let part :=
        if slashes % 2 = 1 then .text ('[' :: body ++ [']']) else tagOf (place + 2 * kept) body
      flush text ++ literal ++ [part] ++ partsFrom (place + slashes + body.length + 2) [] after
    | none => partsFrom (place + 1) (c :: text) rest
termination_by cs.length
decreasing_by
  · simp only [List.length_drop, List.length_cons]; omega
  · simp

def parts (cs : List Char) : List MarkupPart := partsFrom 0 [] cs

/-- A bracket after a backslash stands for itself. -/
def unescape : List Char → List Char
  | '\\' :: '[' :: cs => '[' :: unescape cs
  | c :: cs => c :: unescape cs
  | [] => []

/-- A tag that is open: where its stretch starts, the text of its style, and its value. -/
structure Open where
  start : Nat
  name : String
  value : Option (List Char)

namespace Open

def styleText (o : Open) : String :=
  match o.value with
  | some v => o.name ++ " " ++ String.ofList v
  | none => o.name

def isHandler (o : Open) : Bool := o.name.toList.head? = some '@'

def span (o : Open) (stop : Nat) : Except MarkupError Span :=
  match Style.find o.styleText with
  | .ok style => .ok ⟨o.start, stop, style⟩
  | .error _ => .error .missingNumber

end Open

/-- Text so far, tags that are open, the last one first, and tags that were closed, the last one first,
with the places where they were. -/
structure State where
  chars : List Char
  opened : List Open
  closed : List (Open × Nat)

def State.close (s : State) (o : Open) (opened : List Open) : Except MarkupError State :=
  match o.value with
  | some v =>
    if o.isHandler && v ≠ [] && !TagValue.isValue v then .error (.value (String.ofList v))
    else .ok { s with opened, closed := (o, s.chars.length) :: s.closed }
  | none => .ok { s with opened, closed := (o, s.chars.length) :: s.closed }

def takeOpen? (name : String) : List Open → Option (Open × List Open)
  | [] => none
  | o :: os =>
    if o.name = name then some (o, os) else (takeOpen? name os).map fun (p, ps) => (p, o :: ps)

def tagText (name : List Char) (value : Option (List Char)) : String :=
  String.ofList ('[' :: name ++ (match value with
    | some v => '=' :: v
    | none => []) ++ [']'])

def styleOf (name : List Char) : Except MarkupError String :=
  (Style.normalText (String.ofList name)).mapError fun _ => .missingNumber

def step (s : State) : MarkupPart → Except MarkupError State
  | .text cs => .ok { s with chars := s.chars ++ shown (drawPictures (unescape cs)) }
  | .tag place name value =>
    match name with
    | '/' :: name' =>
      let closed := Text.strip name'
      if closed = [] then
        match s.opened with
        | o :: os => s.close o os
        | [] => .error (.nothingOpen place)
      else do
        match takeOpen? (← styleOf closed) s.opened with
        | some (o, os) => s.close o os
        | none => .error (.unopened (tagText name value) place)
    | _ => do
      return { s with opened := ⟨s.chars.length, ← styleOf name, value⟩ :: s.opened }

/-- The text that markup stands for. Tags that are never closed reach to its end. The styles of all tags
are looked up last. -/
def read (text : String) : Except MarkupError Styled := do
  let s ← (parts text.toList).foldlM step ⟨[], [], []⟩
  let closed := (s.opened.reverse.map fun o => (o, s.chars.length)) ++ s.closed
  let spans ← closed.mapM fun (o, stop) => o.span stop
  return ⟨s.chars, .none, spans.mergeSort fun a b => a.start ≤ b.start⟩

end Markup

end AsyncActions.Terminal
