import AsyncActions.Text.Space

/-!
# Values of tags

The value of a tag that names a handler is a name, perhaps with arguments, or a literal. Literals here
are numbers, strings, `True`, `False`, `None`, and tuples of them; the rarer ones are not read.
-/

namespace AsyncActions.Terminal.TagValue

/-- What follows what is read at the start of a text, if it can be read. -/
abbrev Reader := List Char → Option (List Char)

def skipBlanks (cs : List Char) : List Char := cs.dropWhile fun c => c = ' ' || c = '\t' || c = '\n'

def isWordChar (c : Char) : Bool := c.isAlphanum || c = '_'

/-- Digits, with a point among them or none. A whole number does not start with a zero. -/
def number (cs : List Char) : Option (List Char) :=
  let digits := cs.takeWhile Char.isDigit
  let rest := cs.drop digits.length
  let end_ := match rest with
    | '.' :: rest => if digits = [] && !rest.head?.any Char.isDigit then none else some (rest.dropWhile Char.isDigit)
    | _ =>
      if digits = [] || (digits.head? = some '0' && digits.any (· ≠ '0')) then none else some rest
  end_.filter fun rest => !rest.head?.any isWordChar

/-- The rest of a string, up to its quote. What a backslash with a number stands for is not read. -/
def string (quote : Char) (cs : List Char) : Option (List Char) :=
  match cs with
  | [] => none
  | '\\' :: c :: cs => if ['x', 'u', 'U', 'N'].contains c then none else string quote cs
  | c :: cs => if c = quote then some cs else if c = '\n' then none else string quote cs

/-- Strings one after the other are one. -/
def strings : Nat → Reader
  | 0, _ => none
  | fuel + 1, cs =>
    match skipBlanks cs with
    | c :: rest =>
      if c = '\x27' || c = '\x22' then (string c rest).bind fun rest => (strings fuel rest).or rest else none
    | [] => none

def word (cs : List Char) : Option (List Char) :=
  let w := cs.takeWhile isWordChar
  if ["True", "False", "None"].contains (String.ofList w) then some (cs.drop w.length) else none

mutual

def value : Nat → Reader
  | 0, _ => none
  | fuel + 1, cs =>
    match skipBlanks cs with
    | '(' :: cs => values fuel cs
    | '-' :: cs | '+' :: cs => number (skipBlanks cs)
    | cs => (word cs).or ((number cs).or (strings (fuel + 1) cs))

def values : Nat → Reader
  | 0, _ => none
  | fuel + 1, cs =>
    match skipBlanks cs with
    | ')' :: cs => some cs
    | cs =>
      match (value fuel cs).map skipBlanks with
      | some (')' :: cs) => some cs
      | some (',' :: cs) => values fuel cs
      | _ => none

end

def isLiteral (cs : List Char) : Bool := ((value (2 * cs.length + 1) cs).map skipBlanks) = some []

/-- The text of a value means something. -/
def isValue (text : List Char) : Bool :=
  let text := Text.strip text
  let arguments := text.dropWhile fun c => isWordChar c || c = '.'
  if arguments = [] then true
  else if arguments.head? = some '(' && arguments.getLast? = some ')' && !arguments.contains '\n' then
    isLiteral arguments
  else isLiteral text || isLiteral ('(' :: text ++ [')'])

end AsyncActions.Terminal.TagValue
