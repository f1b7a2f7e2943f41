import AsyncActions.Finding.Basic
import AsyncActions.Text.Case

/-!
# What a report says

The findings in sections, one for each file; how many findings each file has; and the totals. What
it looks like on a terminal is decided elsewhere.
-/

namespace AsyncActions.Report

/-- The findings of one file, in the order of their places. -/
structure Section where
  path : String
  findings : List Finding
  deriving DecidableEq

structure FileCount where
  path : Path
  count : Nat
  deriving DecidableEq

/-- How many findings there are, how many of each severity that is spoken of, and how many that
have a suggestion. -/
structure Totals where
  findings : Nat
  bySeverity : List (String × Nat)
  suggested : Nat
  deriving DecidableEq

def pathText (f : Finding) : String := f.location.path.text

def placeLe (f g : Finding) : Bool :=
  f.location.line.val < g.location.line.val ||
    (f.location.line = g.location.line && f.location.column.val ≤ g.location.column.val)

/-- The paths of findings in order, each once. -/
def paths (findings : List Finding) : List String :=
  ((findings.map pathText).mergeSort fun a b => a ≤ b).eraseDups

/-- The section of a file. Findings at one place stay as they were. -/
def sectionAt (findings : List Finding) (path : String) : Section :=
  ⟨path, (findings.filter (pathText · = path)).mergeSort placeLe⟩

def sectionsOf (findings : List Finding) : List Section := (paths findings).map (sectionAt findings)

def countOf (findings : List Finding) (path : Path) : FileCount :=
  ⟨path, findings.countP (pathText · = path.text)⟩

def sortByPath (files : List FileCount) : List FileCount :=
  files.mergeSort fun a b => a.path.text ≤ b.path.text

/-- The files with findings, and then those without, each part in order. -/
def countsOf (findings : List Finding) (files : List Path) : List FileCount :=
  let counts := files.map (countOf findings)
  sortByPath (counts.filter (·.count ≠ 0)) ++ sortByPath (counts.filter (·.count = 0))

def countedSeverities : List String := ["error", "warning", "info"]

def totalsOf (findings : List Finding) : Totals where
  findings := findings.length
  bySeverity :=
    (countedSeverities.map fun s => (s, findings.countP (Text.lower ·.severity = s))).filter
      (·.2 ≠ 0)
  suggested := findings.countP (·.suggestions ≠ [])

end AsyncActions.Report

namespace AsyncActions

/-- What a report says. Without findings it has no sections and no totals; without files to count,
it says nothing about them. -/
structure Report where
  sections : List Report.Section
  files : List Report.FileCount
  totals : Option Report.Totals
  deriving DecidableEq

def Report.of (findings : List Finding) (files : List Path) : Report where
  sections := Report.sectionsOf findings
  files := Report.countsOf findings files
  totals := if findings = [] then none else some (Report.totalsOf findings)

end AsyncActions
