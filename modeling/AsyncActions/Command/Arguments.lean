import AsyncActions.Text.Quoted
import AsyncActions.Text.Similar

/-!
# Command-line arguments

Options may stand before, between and after other arguments, until two dashes end them. A long
option may have its value after an equals sign; short options may be written together, with the
value of the last one after them.
-/

namespace AsyncActions.Command

inductive Switch where
  | select
  | severity
  | apply
  | verbose
  /-- Asks for help, or about completion, rather than for an analysis. -/
  | information
  deriving DecidableEq, Repr

namespace Switch

def longNames : List (String × Switch) :=
  [("--select", select), ("--severity", severity), ("--apply-suggestions", apply),
   ("--verbose", verbose), ("--install-completion", information),
   ("--show-completion", information), ("--help", information)]

def shortNames : List (Char × Switch) := [('s', select), ('v', verbose)]

def takesValue : Switch → Bool
  | select | severity => true
  | apply | verbose | information => false

end Switch

inductive ArgumentError where
  | unknownOption (name : String) (similar : List String)
  | missingValue (option : String)
  | unexpectedValue (option : String)
  deriving DecidableEq, Repr

def ArgumentError.message : ArgumentError → String
  | unknownOption name similar =>
    s!"No such option: {name}" ++
      match similar with
      | [] => ""
      | [other] => s!" Did you mean {other}?"
      | _ => " (Possible options: " ++ ", ".intercalate similar ++ ")"
  | missingValue option => s!"Option {Text.quoted option} requires an argument."
  | unexpectedValue option => s!"Option {Text.quoted option} does not take a value."

structure Arguments where
  others : List String
  selection : List String
  severity : Option String
  apply : Bool
  verbose : Bool
  information : Bool
  deriving DecidableEq, Repr

namespace Arguments

def none : Arguments := ⟨[], [], .none, false, false, false⟩

/-- The arguments with one more option. The last severity counts. -/
def give (a : Arguments) (value : String) : Switch → Arguments
  | .select => { a with selection := a.selection ++ [value] }
  | .severity => { a with severity := some value }
  | .apply => { a with apply := true }
  | .verbose => { a with verbose := true }
  | .information => { a with information := true }

def turnOn (a : Arguments) (s : Switch) : Arguments := a.give "" s

/-- An option that waits for its value, as it is written. -/
structure Waiting where
  switch : Switch
  name : String

/-- Read short options that are written together. The last one may wait for a value. -/
def readShort (a : Arguments) : List Char → Except ArgumentError (Arguments × Option Waiting)
  | [] => .ok (a, .none)
  | c :: cs =>
    let name := String.ofList ['-', c]
    match Switch.shortNames.lookup c with
    | .none => .error (.unknownOption name [])
    | some s =>
      if !s.takesValue then readShort (a.turnOn s) cs
      else if cs = [] then .ok (a, some ⟨s, name⟩)
      else .ok (a.give (String.ofList cs) s, .none)

/-- An argument before its first equals sign, and what follows the sign. -/
def splitValue (arg : String) : String × Option String :=
  let name := arg.toList.takeWhile (· ≠ '=')
  let rest := arg.toList.drop name.length
  (String.ofList name, if rest = [] then .none else some (String.ofList rest.tail))

def readOption (a : Arguments) (arg : String) : Except ArgumentError (Arguments × Option Waiting) :=
  let (name, value) := splitValue arg
  match Switch.longNames.lookup name, value with
  | some s, some v =>
    if s.takesValue then .ok (a.give v s, .none) else .error (.unexpectedValue name)
  | some s, .none => if s.takesValue then .ok (a, some ⟨s, name⟩) else .ok (a.turnOn s, .none)
  | .none, _ =>
    if "--".isPrefixOf arg then
      .error (.unknownOption name (Text.closeMatches name (Switch.longNames.map Prod.fst)))
    else readShort a (arg.toList.drop 1)

def isOption (arg : String) : Bool := "-".isPrefixOf arg && arg ≠ "-"

def readFrom (a : Arguments) : List String → Except ArgumentError Arguments
  | [] => .ok a
  | arg :: args =>
    if arg = "--" then .ok { a with others := a.others ++ args }
    else if !isOption arg then readFrom { a with others := a.others ++ [arg] } args
    else
      match readOption a arg with
      | .error e => .error e
      | .ok (a, .none) => readFrom a args
      | .ok (a, some w) =>
        match args with
        | value :: args => readFrom (a.give value w.switch) args
        | [] => .error (.missingValue w.name)

def read (args : List String) : Except ArgumentError Arguments := readFrom none args

end Arguments

end AsyncActions.Command
