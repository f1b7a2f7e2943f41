import AsyncActions.Amend
import AsyncActions.Config

/-!
# Going through sources

Every rule runs on every source. If suggestions are to be applied, each file is amended before the
next source is looked at, and what remains are the findings that were not mended.
-/

namespace AsyncActions

/-- Which rules run at which severities, and whether their suggestions are applied. -/
structure Job where
  rules : List Rule
  config : Config
  apply : Bool

/-- What going through sources gave: the workspace, the findings that remain, how many suggestions
were applied, and what was said. It breaks off where a suggestion is past the end of a source. -/
structure Sweep where
  workspace : Workspace
  remaining : List Finding
  applied : Nat
  log : Log
  failure : Option EditError

namespace Job

def findings (job : Job) (source : Source) : List Finding × Log :=
  Rule.runAll job.rules job.config.severityFor source

/-- Go through one source. Once its file is amended, only what had no suggestion remains. -/
def sweepOne (job : Job) (ws : Workspace) (source : Source) : Sweep :=
  let (found, said) := job.findings source
  if job.apply && found ≠ [] then
    let amended := source.amend ws found
    let log := said ++ amended.log
    match amended.count with
    | .error e => ⟨ws, [], 0, log, some e⟩
    | .ok 0 => ⟨amended.workspace, found, 0, log, none⟩
    | .ok n => ⟨amended.workspace, found.filter (·.suggestions = []), n, log, none⟩
  else ⟨ws, found, 0, said, none⟩

def sweep (job : Job) (ws : Workspace) : List Source → Sweep
  | [] => ⟨ws, [], 0, [], none⟩
  | source :: sources =>
    let first := job.sweepOne ws source
    match first.failure with
    | some _ => first
    | none =>
      let rest := job.sweep first.workspace sources
      ⟨rest.workspace, first.remaining ++ rest.remaining, first.applied + rest.applied,
       first.log ++ rest.log, rest.failure⟩

end Job

end AsyncActions
