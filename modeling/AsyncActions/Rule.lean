import AsyncActions.Finding.Basic
import AsyncActions.Log
import AsyncActions.Source

/-!
# Rules

A rule looks at one source and reports findings. It may fail on the way; what it reported before
counts, and the other rules are not affected.
-/

namespace AsyncActions

/-- What a rule made of a source: the findings up to its end or failure, and what it said. -/
structure Outcome where
  findings : List Finding
  failure : Option String
  log : Log

/-- A rule. It runs at a severity, which its findings carry. -/
structure Rule where
  id : String
  name : String
  description : String
  category : String
  hasSuggestions : Bool
  recommended : Bool
  run : Source → String → Outcome

namespace Rule

def docsUrl (id : String) : String := s!"docs/rules/{id}.md"

def bare (id : String) (run : Source → String → Outcome) : Rule :=
  ⟨id, "", "", "Possible Errors", false, false, run⟩

/-- The findings before the first that is not one, and its flaws. -/
def untilFlawed : List (Checked Finding) → List Finding × Option Flaws
  | [] => ([], none)
  | .error flaws :: _ => ([], some flaws)
  | .ok f :: rest => let (fs, flaws) := untilFlawed rest; (f :: fs, flaws)

/-- A rule that reports what it is told to, and may then fail. -/
def scripted (id : String) (findings : Source → String → List (Checked Finding))
    (failure : Option String) : Rule :=
  bare id fun source severity =>
    match untilFlawed (findings source severity) with
    | (found, none) => ⟨found, failure, []⟩
    | (found, some flaws) => ⟨found, some flaws.message, []⟩

def failureRecord (rule : Rule) (source : Source) : Record :=
  ⟨.error, "main", s!"Rule {rule.id} failed on {source.path}"⟩

/-- What the rule says about a source, its failure included. -/
def logOn (rule : Rule) (source : Source) (severity : String) : Log :=
  let outcome := rule.run source severity
  outcome.log ++ if outcome.failure.isSome then [rule.failureRecord source] else []

def runAll (rules : List Rule) (severityOf : String → String) (source : Source) :
    List Finding × Log :=
  (rules.flatMap fun r => (r.run source (severityOf r.id)).findings,
   rules.flatMap fun r => r.logOn source (severityOf r.id))

end Rule

end AsyncActions
