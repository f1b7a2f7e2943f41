import AsyncActions.Command.Arguments
import AsyncActions.Command.Sweep
import AsyncActions.Loading
import AsyncActions.Report.Page

/-!
# Running the command

From arguments and a workspace to a workspace, lines of output, a log and an exit code. Nothing is
written before the target, the rules and the severity are known to make sense.
-/

namespace AsyncActions.Command

inductive UsageError where
  | arguments (e : ArgumentError)
  | missingTarget
  | noSuchTarget (text : String)
  | unreadableTarget (text : String)
  | extraArguments (texts : List String)
  | config (e : ConfigError)
  | unsupported (e : LanguageError)
  | neitherFileNorDirectory (path : Path)
  deriving DecidableEq, Repr

namespace UsageError

def invalid (message : String) : String := "Invalid value: " ++ message

def invalidTarget (text what : String) : String :=
  s!"Invalid value for \x27target\x27: path {Text.quoted text} {what}."

def message : UsageError → String
  | arguments e => e.message
  | missingTarget => "Missing argument \x27target\x27."
  | noSuchTarget text => invalidTarget text "does not exist"
  | unreadableTarget text => invalidTarget text "is not readable"
  | extraArguments texts => "Got unexpected extra argument(s) (" ++ " ".intercalate texts ++ ")"
  | config e => invalid e.message
  | unsupported e => invalid e.message
  | neitherFileNorDirectory path =>
    invalid s!"Target path is neither a file nor a directory: {path}"

end UsageError

inductive Failure where
  | usage (e : UsageError)
  | edit (e : EditError)
  | page (e : Report.PageError)
  deriving DecidableEq, Repr

def Failure.message : Failure → String
  | usage e => e.message
  | edit e => e.message
  | page e => e.message

structure Finished where
  workspace : Workspace
  lines : List String
  log : Log
  exitCode : Except Failure Nat

/-- The path without links that a text leads to. -/
def targetPath (ws : Workspace) (text : String) : Except UsageError Path :=
  match ws.resolve (.ofString text) with
  | .error _ => .error (.noSuchTarget text)
  | .ok path =>
    match ws.status path with
    | .error _ => .error (.noSuchTarget text)
    | .ok (.file _ access) => if access.readable then .ok path else .error (.unreadableTarget text)
    | .ok (.directory access) => if access.listable then .ok path else .error (.unreadableTarget text)
    | .ok _ => .ok path

def target (ws : Workspace) (texts : List String) : Except UsageError Path :=
  match texts with
  | [] => .error .missingTarget
  | text :: others => do
    let path ← targetPath ws text
    if others = [] then .ok path else .error (.extraArguments others)

def job (config : Config) (a : Arguments) : Except ConfigError Job := do
  let rules ← config.enabled (if a.selection = [] then none else some a.selection)
  let config ←
    match a.severity with
    | some severity => config.withSeverity severity (some (rules.map Rule.id))
    | none => .ok config
  return ⟨rules, config, a.apply⟩

def search (config : Config) : Search := ⟨true, config.ignored, false, fun _ => true⟩

def nothingFound (directory : Path) : Record :=
  ⟨.warning, "main", s!"No JavaScript/TypeScript files found under {directory}"⟩

/-- The sources that a target stands for, and what was said while they were looked for. -/
def targetFiles (ws : Workspace) (config : Config) (path : Path) :
    Except UsageError (List Path × Log) :=
  match ws.status path with
  | .ok (.file ..) => (path.language.map fun _ => ([path], [])).mapError .unsupported
  | .ok (.directory _) =>
    let tree := ws.tree? path
    let said := (search config).log path tree
    match (search config).find path tree with
    | .ok [] => .ok ([], said ++ [nothingFound path])
    | .ok files => .ok (files, said)
    | .error _ => .error (.neitherFileNorDirectory path)
  | _ => .error (.neitherFileNorDirectory path)

def targetSources (parser : Parser) (ws : Workspace) (config : Config) (path : Path) :
    Except UsageError (List Source × Log) := do
  let (files, said) ← targetFiles ws config path
  let (sources, loading) ← (Loading.loadAll parser ws files).mapError .unsupported
  return (sources, said ++ loading)

def noRules : String := "No rules are enabled in the current configuration."

def appliedLine (n : Nat) : String := s!"Applied {n} suggestion(s)."

/-- The report at the end of a run. Files are counted only where there are several. -/
def finish (width : Nat) (a : Arguments) (sources : List Source) (said : Log) (s : Sweep) :
    Finished :=
  let files := if sources.length ≤ 1 then [] else sources.map (·.path)
  let page := (Report.of s.remaining files).page s.workspace ⟨width, a.verbose⟩
  let lines := page.lines.map (Terminal.Line.text false)
  let log := said ++ s.log
  match s.failure, page.failure with
  | some e, _ => ⟨s.workspace, [], log, .error (.edit e)⟩
  | none, some e => ⟨s.workspace, lines, log, .error (.page e)⟩
  | none, none =>
    ⟨s.workspace, lines ++ (if a.apply then [appliedLine s.applied] else []), log,
     .ok (if s.remaining = [] then 0 else 1)⟩

def runArguments (parser : Parser) (config : Config) (width : Nat) (ws : Workspace)
    (a : Arguments) : Except UsageError Finished := do
  if a.information then return ⟨ws, [], [], .ok 0⟩
  let path ← target ws a.others
  let job ← (job config a).mapError .config
  if job.rules.isEmpty then return ⟨ws, [noRules], [], .ok 1⟩
  let (sources, said) ← targetSources parser ws config path
  return finish width a sources said (job.sweep ws sources)

def threshold (verbose : Bool) : Level := if verbose then .debug else .warning

/-- Run the command. A run that is not used as it should be changes and shows nothing. -/
def run (parser : Parser) (config : Config) (width : Nat) (ws : Workspace) (args : List String) :
    Finished :=
  let finished := do
    let a ← (Arguments.read args).mapError UsageError.arguments
    let done ← runArguments parser config width ws a
    return { done with log := done.log.from (threshold a.verbose) }
  match finished with
  | .ok done => done
  | .error e => ⟨ws, [], [], .error (.usage e)⟩

def Finished.code (f : Finished) : Nat :=
  match f.exitCode with
  | .ok n => n
  | .error (.usage _) => 2
  | .error _ => 1

end AsyncActions.Command
