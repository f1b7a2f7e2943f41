import AsyncActions.Rule
import AsyncActions.Text.Lines
import AsyncActions.Text.Quoted
import AsyncActions.Tree.Function

/-!
# The rule for server actions

A function whose body opens with the directive `use server` runs on the server and is called over
the network, so it has to be declared `async`. The rule reports those that are not, and offers to
insert the keyword.
-/

namespace AsyncActions

/-! ## Messages -/

/-- A part of a message: fixed text, or a place for a value. -/
inductive Piece where
  | text (s : String)
  | slot (name : String)
  deriving DecidableEq, Repr

abbrev Template := List Piece

inductive MessageError where
  | unknownMessage (id : String)
  | missingValue (name : String)
  deriving DecidableEq, Repr

def MessageError.message : MessageError → String
  | unknownMessage id => Text.quoted id
  | missingValue name => Text.quoted name

def Template.render (values : List (String × String)) : Template → Except MessageError String
  | [] => .ok ""
  | .text s :: rest => (render values rest).map (s ++ ·)
  | .slot name :: rest =>
    match values.lookup name with
    | some v => (render values rest).map (v ++ ·)
    | none => .error (.missingValue name)

namespace AsyncAction

def ruleId : String := "async-server-action"

def messageId : String := "async-server-action"

def suggestionId : String := "suggest-async"

def messageTemplate : Template := [.text "Server Actions must be async"]

def suggestionTemplate : Template := [.text "Make ", .slot "function_name", .text " async"]

def templates : List (String × Template) :=
  [(messageId, messageTemplate), (suggestionId, suggestionTemplate)]

def renderMessage (id : String) (values : List (String × String)) : Except MessageError String :=
  match templates.lookup id with
  | some t => t.render values
  | none => .error (.unknownMessage id)

def findingMessage : String := "Server Actions must be async"

def suggestionMessage (name : String) : String := "Make " ++ name ++ " async"

theorem renderMessage_messageId (values : List (String × String)) :
    renderMessage messageId values = .ok findingMessage := rfl

theorem renderMessage_suggestionId (name : String) :
    renderMessage suggestionId [("function_name", name)] = .ok (suggestionMessage name) := by
  have lookup : templates.lookup suggestionId = some suggestionTemplate := by decide
  simp [renderMessage, lookup, suggestionTemplate, Template.render, suggestionMessage, Except.map,
    String.append_assoc]

end AsyncAction

/-! ## Which functions are reported -/

/-- The directive that makes a function a server action. -/
def directive : String := "use server"

namespace Function

def hasDirective (f : Function) : Bool :=
  match f.body.bind (·.first) with
  | some s => s.type = "expression_statement" && s.value = some (Text.ofString directive)
  | none => false

/-- A server action that is not async but could be. -/
def isSyncAction (f : Function) : Bool :=
  !f.isAsync && !f.isGenerator && !f.isAccessor && f.hasDirective

/-- How messages speak of the function. -/
def displayName (f : Function) : String :=
  match f.name with
  | some name => if name = "" then "this function" else "\x60" ++ name ++ "\x60"
  | none => "this function"

def text (source : Bytes) (f : Function) : List Char :=
  Utf8.decode (source.slice f.startByte f.endByte)

/-- The first line of the function, if it has any text. -/
def snippet (source : Bytes) (f : Function) : Option String :=
  let cs := f.text source
  if cs = [] then none else some (String.ofList (Text.firstLine cs))

end Function

namespace AsyncAction

def keyword : String := "async "

def fix (f : Function) : Checked Fix :=
  Fix.check f.asyncByte keyword (f.asyncPoint.row + 1) (f.asyncPoint.column + 1)

def report (f : Function) (path : Path) (source : Bytes) (ruleId severity : String) :
    Checked Finding := do
  let fix ← fix f
  let location ← Location.check path (f.startPoint.row + 1) (f.startPoint.column + 1)
    (f.endPoint.row + 1) (f.endPoint.column + 1) (f.snippet source)
  return { ruleId, message := findingMessage, location, messageId := some messageId, severity,
           suggestions := [⟨suggestionId, suggestionMessage f.displayName, fix⟩] }

/-- The functions of a source that the rule is about, in document order. -/
def flagged (source : Source) : List Function :=
  (source.root.functions source.bytes).filter Function.isSyncAction

def record (source : Source) (f : Function) : Record :=
  ⟨.debug, "rules.async_server_action",
   s!"Sync server action at {source.path}:{f.startPoint.row + 1}: " ++
     String.ofList ((f.text source.bytes).takeWhile (· ≠ '\n'))⟩

/-- Report function after function. A function that cannot be reported ends the run with
nothing. -/
def reportAll (source : Source) (severity : String) (acc : List Finding) (log : Log) :
    List Function → Outcome
  | [] => ⟨acc, none, log⟩
  | f :: fs =>
    let log := log ++ [record source f]
    match report f source.path source.bytes ruleId severity with
    | .ok finding => reportAll source severity (acc ++ [finding]) log fs
    | .error flaws => ⟨[], some (Flaws.message flaws), log⟩

def run (source : Source) (severity : String) : Outcome :=
  reportAll source severity [] [] (flagged source)

end AsyncAction

def asyncAction : Rule where
  id := AsyncAction.ruleId
  name := "Async server action"
  description := "Require functions with the \x60use server\x60 directive to be async"
  category := "Possible Errors"
  hasSuggestions := true
  recommended := false
  run := AsyncAction.run

end AsyncActions
