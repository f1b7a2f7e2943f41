import AsyncActions.AsyncAction
import AsyncActions.Text.Case

/-!
# Configuration

Which rules run, at which severity, and which directories are not looked into.
-/

namespace AsyncActions

def severities : List String := ["error", "warning", "info"]

/-- Directories that hold no sources of the project itself. -/
def defaultIgnored : List String :=
  ["build", "dist", "out", ".next", ".nuxt", ".output", ".vercel", ".turbo", "coverage",
   "__tests__", "__mocks__", "__fixtures__", "node_modules", "bower_components", "vendor",
   ".git", ".svn", ".hg", ".vscode", ".idea", "venv", ".venv", "__pycache__", ".cache",
   ".pytest_cache"]

/-- Overrides of severities, by rule id. -/
abbrev Severities := List (String × String)

namespace Severities

/-- The overrides with one more, which wins over an older one of the same rule. -/
def put (overrides : Severities) (severity id : String) : Severities :=
  (id, severity) :: overrides.filter (·.1 ≠ id)

def putAll (overrides : Severities) (severity : String) (ids : List String) : Severities :=
  ids.foldl (put · severity) overrides

end Severities

/-- Rules in the order in which they run, overrides, and ignored directories. -/
structure Config where
  rules : List Rule
  severity : Severities
  ignored : List String

inductive ConfigError where
  | unknownRules (ids : List String)
  | unknownSeverity (severity : String)
  deriving DecidableEq, Repr

def ConfigError.message : ConfigError → String
  | unknownRules ids => "Unknown rule id(s): " ++ ", ".intercalate ids
  | unknownSeverity severity =>
    s!"Unknown severity {Text.quoted severity}; expected one of " ++ ", ".intercalate severities

namespace Config

def default : Config := ⟨[asyncAction], [], defaultIgnored⟩

def ruleIds (c : Config) : List String := c.rules.map Rule.id

def severityFor (c : Config) (id : String) : String := (c.severity.lookup id).getD defaultSeverity

/-- Those of the selected ids that no rule has. -/
def unknownIds (c : Config) (selected : List String) : List String :=
  selected.filter fun id => !c.ruleIds.contains id

/-- The rules that run: all, or those that are selected. -/
def enabled (c : Config) (selection : Option (List String)) : Except ConfigError (List Rule) :=
  match selection with
  | none => .ok c.rules
  | some ids =>
    if c.unknownIds ids = [] then .ok (c.rules.filter fun r => ids.contains r.id)
    else .error (.unknownRules (c.unknownIds ids))

/-- The configuration with a severity set for some rules, or for all of its own. -/
def withSeverity (c : Config) (severity : String) (ids : Option (List String)) :
    Except ConfigError Config :=
  let severity := Text.lower severity
  if severities.contains severity then
    .ok { c with severity := c.severity.putAll severity (ids.getD c.ruleIds) }
  else .error (.unknownSeverity severity)

def sortedIgnored (c : Config) : List String :=
  (c.ignored.mergeSort fun a b => a ≤ b).eraseDups

end Config

end AsyncActions
