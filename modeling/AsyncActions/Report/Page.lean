import AsyncActions.Report.Plan
import AsyncActions.Rule
import AsyncActions.Terminal.Table
import AsyncActions.Workspace

/-!
# What a report looks like

A report as lines of a terminal. Paths and messages are read as markup; everything else is shown
as it is.
-/

namespace AsyncActions.Report

open Terminal

inductive PageError where
  | markup (e : MarkupError)
  | linkLoop (path : Path)
  deriving DecidableEq, Repr

def PageError.message : PageError → String
  | markup e => e.message
  | linkLoop path => "Symlink loop from " ++ Text.quoted path.text

/-- What is shown at once, or why it is not. -/
abbrev Block := Except PageError (List Line)

structure Layout where
  width : Nat
  verbose : Bool

def remedies : List (String × String) :=
  [("async-server-action",
    "Server Actions are called over the network and always return a Promise; " ++
    "declare the function \x60async\x60 (run with --apply-suggestions to insert it).")]

def remedy? (ruleId : String) : Option String := remedies.lookup ruleId

/-- The style of a severity, in any letter case. -/
def severityStyle (severity : String) : String :=
  match Text.lower severity with
  | "error" => "bold red"
  | "warning" => "bold yellow"
  | "info" => "bold blue"
  | _ => "bold white"

def tagged (style text : String) : String := "[" ++ style ++ "]" ++ text ++ "[/" ++ style ++ "]"

def shorten (ws : Workspace) (path : Path) : Except PageError String :=
  match ws.shorten path with
  | .ok p => .ok p.text
  | .error stuck => .error (.linkLoop stuck)

/-! ## Blocks -/

namespace Layout

def blank : Block := .ok [[]]

def text (l : Layout) (t : Styled) : Block :=
  .ok ((t.render l.width .loose .fold).map (Line.cut l.width))

def markupPanel (l : Layout) (frame : Frame) (style : String) (title : Option String)
    (markup : String) : Block := do
  let t ← if l.width ≤ 4 then pure Styled.empty else (Markup.read markup).mapError .markup
  let lines := panel frame (.named style) title l.width fun width => t.render width .loose .fold
  return lines.map (Line.cut l.width)

def table (l : Layout) (t : Table) : Block := do
  let lines ← (t.render l.width).mapError .markup
  return lines.map (Line.cut l.width)

def tablePanel (l : Layout) (style : String) (t : Table) : Block := do
  let lines ← (t.render (l.width - 4)).mapError .markup
  return (panel .rounded (.named style) none l.width fun _ => lines).map (Line.cut l.width)

end Layout

def dim (text : String) : Styled := .ofText text (.named "dim")

def column (head : String) (placement : Placement) (style : String) (width : Option Nat) : Column :=
  ⟨head, placement, .named style, width⟩

/-! ## Sections -/

def findingRow (f : Finding) : List Content :=
  [.markup (toString f.location.line), .markup (toString f.location.column),
   .styled (.ofText (Text.upper f.severity) (.named (severityStyle f.severity))),
   .styled (dim ("[" ++ f.ruleId ++ "]")), .markup f.message]

def findingTable (findings : List Finding) : Table where
  title := none
  headStyle := .named "bold magenta"
  frame := .simple
  columns := [column "Line" .right "dim" (some 5), column "Col" .right "dim" (some 4),
    column "Severity" .left "" (some 10), column "Rule" .left "" (some 22),
    column "Message" .left "white" none]
  rows := findings.map findingRow

def snippetLine (snippet : String) : Styled :=
  .concat [dim "  |-- ", .ofText (String.ofList (Text.strip snippet.toList)) .none]

def suggestionLine (s : Suggestion) : Styled :=
  let inserted := Text.quoted (String.ofList (Text.strip s.fix.text.toList))
  .concat [dim "  [Suggestion] ", .ofText s.description (.named "green"),
    .ofText s!" (insert {inserted} at {s.fix.line}:{s.fix.column})" .none]

def findingNotes (l : Layout) (f : Finding) : List Block :=
  ((f.location.snippet.filter (· ≠ "")).toList.map fun s => l.text (snippetLine s)) ++
    if l.verbose then f.suggestions.map fun s => l.text (suggestionLine s) else []

def remedyNotes (l : Layout) (ruleId : String) : List Block :=
  match remedy? ruleId with
  | some remedy =>
    [l.text (dim s!"  [Fix] [{ruleId}] {remedy}"), l.text (dim s!"        see {Rule.docsUrl ruleId}")]
  | none => []

def sectionBlocks (ws : Workspace) (l : Layout) (s : Section) : List Block :=
  let header : Block := do
    let path ← shorten ws (.ofString s.path)
    l.markupPanel Frame.invisible "blue" none (tagged "bold cyan" path)
  [Layout.blank, header, l.table (findingTable s.findings)] ++
    s.findings.flatMap (findingNotes l) ++ [Layout.blank] ++
    if l.verbose then
      ((s.findings.map (·.ruleId)).eraseDups.flatMap (remedyNotes l)) ++ [Layout.blank]
    else []

def fileRow (ws : Workspace) (f : FileCount) : Except PageError (List Content) := do
  let path ← shorten ws f.path
  let status :=
    if f.count = 0 then Styled.ofText "OK" (.named "bold green")
    else .ofText "FLAGGED" (.named "bold red")
  return [.markup path, .styled status, .markup (toString f.count)]

def fileTable (rows : List (List Content)) : Table where
  title := some "Files Summary"
  headStyle := .named "bold cyan"
  frame := .rounded
  columns := [column "File" .left "white" none, column "Status" .left "" (some 10),
    column "Findings" .right "" (some 8)]
  rows := rows

def fileBlocks (ws : Workspace) (l : Layout) (files : List FileCount) : List Block :=
  match files.mapM (fileRow ws) with
  | .ok rows => [Layout.blank, l.tablePanel "cyan" (fileTable rows)]
  | .error e => [.error e]

def totalsMarkup (t : Totals) : String :=
  let plural := if t.findings = 1 then "" else "s"
  " | ".intercalate (
    tagged "bold" s!"{t.findings} finding{plural}" ::
    (t.bySeverity.map fun (severity, n) => s!"[{severityStyle severity}]{n} {severity}[/]") ++
    if t.suggested = 0 then [] else [tagged "green" s!"{t.suggested} with suggestions"])

def totalsBlocks (l : Layout) (t : Totals) : List Block :=
  [Layout.blank, l.markupPanel .rounded "yellow" (some "Summary") (totalsMarkup t)]

def allClear (l : Layout) : Block :=
  l.markupPanel .rounded "green" (some "actionscan") (tagged "green" "No issues found.")

/-- The blocks of a report. A terminal without width shows none. -/
def blocks (ws : Workspace) (l : Layout) (r : Report) : List Block :=
  if l.width = 0 then []
  else if r.sections = [] ∧ r.files = [] then [allClear l]
  else
    r.sections.flatMap (sectionBlocks ws l) ++
      (if r.files = [] then [] else fileBlocks ws l r.files) ++
      r.totals.toList.flatMap (totalsBlocks l)

/-- The lines up to the block that fails, if one does. -/
structure Page where
  lines : List Line
  failure : Option PageError

def Page.ofBlocks : List Block → Page
  | [] => ⟨[], none⟩
  | .ok lines :: blocks => let page := ofBlocks blocks; ⟨lines ++ page.lines, page.failure⟩
  | .error e :: _ => ⟨[], some e⟩

def page (ws : Workspace) (l : Layout) (r : Report) : Page := .ofBlocks (r.blocks ws l)

end AsyncActions.Report
