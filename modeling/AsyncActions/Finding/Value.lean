import AsyncActions.Finding.Basic

/-!
# Findings from loose data

Findings may come as records of loose values. Each reader here takes what can stand for a field
and names every field that cannot be read.
-/

namespace AsyncActions

/-- Loose data. A decimal is `mantissa` divided by ten to the power of `places`. -/
inductive Value where
  | null
  | boolean (b : Bool)
  | integer (i : Int)
  | decimal (mantissa : Int) (places : Nat)
  | text (s : String)
  | list (items : List Value)
  | record (fields : List (String × Value))
  deriving Inhabited

namespace Value

def fail {α : Type} (fault : Fault) : Checked α := .error [⟨[], fault⟩]

/-- Digits with single bars between them. -/
def readDigits (cs : List Char) : Option Nat :=
  go 0 false cs
where
  go (acc : Nat) (afterDigit : Bool) : List Char → Option Nat
    | [] => if afterDigit then some acc else none
    | c :: cs =>
      if c.isDigit then go (10 * acc + (c.toNat - 48)) true cs
      else if c = '_' && afterDigit then go acc false cs
      else none

/-- Blanks around a number do not count. -/
def isBlank (c : Char) : Bool :=
  c = ' ' || ('\t' ≤ c && c ≤ '\r') || c = '\u0085' || c = '\u00A0' || c = '\u1680' ||
    ('\u2000' ≤ c && c ≤ '\u200A') || c = '\u2028' || c = '\u2029' || c = '\u202F' ||
    c = '\u205F' || c = '\u3000'

/-- The integer that a text writes, with an optional sign, and perhaps a point and zeros. -/
def readInteger (s : String) : Option Int :=
  let trimmed := ((s.toList.dropWhile isBlank).reverse.dropWhile isBlank).reverse
  let (whole, fraction) := trimmed.span (· ≠ '.')
  if fraction.tail.all (· = '0') then
    match whole with
    | '-' :: digits => (readDigits digits).map fun n => -(n : Int)
    | '+' :: digits => (readDigits digits).map fun n => (n : Int)
    | digits => (readDigits digits).map fun n => (n : Int)
  else none

def toInteger : Value → Checked Int
  | boolean b => .ok (if b then 1 else 0)
  | integer i => .ok i
  | decimal m places =>
    let unit := Nat.pow 10 places
    if m % unit = 0 then .ok (m / unit) else fail .fractional
  | text s =>
    match readInteger s with
    | some i => .ok i
    | none => fail .unreadableInteger
  | _ => fail .notInteger

def toText : Value → Checked String
  | text s => .ok s
  | _ => fail .notText

def toPath : Value → Checked Path
  | text s => .ok (Path.ofString s)
  | _ => fail .notPath

def toOrdinal (v : Value) : Checked Ordinal := v.toInteger >>= checkOrdinal

def toOffset (v : Value) : Checked Nat := v.toInteger >>= checkOffset

/-- What may be left out or be nothing. -/
def orNull {α : Type} (read : Value → Checked α) : Value → Checked (Option α)
  | null => .ok none
  | v => (read v).map some

/-- The fields of a record, in which a later field of one name wins. -/
def fields : Value → Checked (List (String × Value))
  | record fs => .ok fs.reverse
  | _ => fail .notRecord

def need {α : Type} (fs : List (String × Value)) (name : String) (read : Value → Checked α) :
    Checked α :=
  (match fs.lookup name with
    | some v => read v
    | none => fail .missing).under name

def want {α : Type} (fs : List (String × Value)) (name : String) (default : α)
    (read : Value → Checked α) : Checked α :=
  (match fs.lookup name with
    | some v => read v
    | none => .ok default).under name

def toFix (v : Value) : Checked Fix := do
  let fs ← v.fields
  let (offset, inserted, line, column) ←
    Checked.both (need fs "offset" toOffset) <| .both (need fs "text" toText) <|
      .both (need fs "line" toOrdinal) (need fs "column" toOrdinal)
  return ⟨offset, inserted, line, column⟩

def toSuggestion (v : Value) : Checked Suggestion := do
  let fs ← v.fields
  let (messageId, description, fix) ←
    Checked.both (need fs "message_id" toText) <|
      .both (need fs "description" toText) (need fs "fix" toFix)
  return ⟨messageId, description, fix⟩

def toLocation (v : Value) : Checked Location := do
  let fs ← v.fields
  let (path, line, column, endLine, endColumn, snippet) ←
    Checked.both (need fs "path" toPath) <| .both (need fs "line" toOrdinal) <|
      .both (need fs "column" toOrdinal) <|
      .both (want fs "end_line" none (orNull toOrdinal)) <|
      .both (want fs "end_column" none (orNull toOrdinal))
        (want fs "snippet" none (orNull toText))
  return ⟨path, line, column, endLine, endColumn, snippet⟩

/-- The items of a list, each with its number as the name of its place. -/
def toList {α : Type} (read : Value → Checked α) : Value → Checked (List α)
  | list items => go 0 items
  | _ => fail .notSequence
where
  go (i : Nat) : List Value → Checked (List α)
    | [] => .ok []
    | v :: vs => (Checked.both ((read v).under (toString i)) (go (i + 1) vs)).map fun (a, as) => a :: as

def toFinding (v : Value) : Checked Finding := do
  let fs ← v.fields
  let (ruleId, message, location, messageId, severity, suggestions) ←
    Checked.both (need fs "rule_id" toText) <| .both (need fs "message" toText) <|
      .both (need fs "location" toLocation) <|
      .both (want fs "message_id" none (orNull toText)) <|
      .both (want fs "severity" defaultSeverity toText)
        (want fs "suggestions" [] (toList toSuggestion))
  return ⟨ruleId, message, location, messageId, severity, suggestions⟩

end Value

end AsyncActions
