import AsyncActions.FileType
import AsyncActions.Log
import AsyncActions.Text.Quoted

/-!
# Finding sources

A walk through a tree of directories that collects the sources in it. The tree says what listing
a directory or looking at an entry gives, and where the system refuses. A refusal ends the listing
of the directory in which it happens; what was found before stays, and the walk goes on outside.
-/

namespace AsyncActions

/-- Why the system does not answer, and what it says that this is about. -/
inductive Refusal where
  | denied (about : Option Path := none)
  | failed (about : Option Path := none)
  deriving DecidableEq, Repr

namespace Refusal

def errorText (message : String) : Option Path → String
  | none => message
  | some path => message ++ ": " ++ Text.quoted path.text

def text : Refusal → String
  | denied about => errorText "[Errno 13] Permission denied" about
  | failed about => errorText "[Errno 5] Input/output error" about

end Refusal

/-- A listing that breaks off after some entries. -/
structure Interruption where
  after : Nat
  refusal : Refusal
  deriving DecidableEq, Repr

/-- What stands at a name in a directory. A link is what it leads to, but marked. -/
inductive Entry where
  | file (name : String) (linked : Bool)
  | special (name : String) (linked : Bool)
  | directory (name : String) (linked : Bool) (entries : List Entry)
      (interruption : Option Interruption)
  | unreadable (name : String) (linked : Bool) (refusal : Refusal)
  deriving Repr

namespace Entry

def name : Entry → String
  | file n _ | special n _ | directory n .. | unreadable n .. => n

def linked : Entry → Bool
  | file _ l | special _ l | directory _ l .. | unreadable _ l _ => l

end Entry

structure Search where
  includeTypescript : Bool
  ignored : List String
  followLinks : Bool
  accepts : Path → Bool

structure Walk where
  files : List Path
  log : Log

namespace Walk

def nothing : Walk := ⟨[], []⟩

def say (level : Level) (message : String) : Walk := ⟨[], [⟨level, "traversal", message⟩]⟩

instance : Append Walk := ⟨fun a b => ⟨a.files ++ b.files, a.log ++ b.log⟩⟩

def refused (dir : Path) (refusal : Refusal) (text : String) : Walk :=
  match refusal with
  | .denied _ => say .warning s!"Permission denied accessing directory {dir}: {text}"
  | .failed _ => say .warning s!"Error accessing directory {dir}: {text}"

/-- A file is kept if it is a source and accepted. -/
def file (s : Search) (path : Path) : Walk :=
  if !path.isSource s.includeTypescript then nothing
  else if !s.accepts path then say .debug s!"Filtered out by custom filter: {path}"
  else ⟨[path], [⟨.debug, "traversal", s!"Found source file: {path}"⟩]⟩

/-- The entries of `dir` in the order in which they are listed; `done` have been. -/
def listing (s : Search) (dir : Path) (interruption : Option Interruption) (done : Nat) :
    List Entry → Walk
  | [] =>
    match interruption with
    | some i => refused dir i.refusal i.refusal.text
    | none => nothing
  | e :: es =>
    let path := dir.push e.name
    match interruption.filter (·.after = done) with
    | some i => refused dir i.refusal i.refusal.text
    | none =>
      if e.linked && !s.followLinks then
        say .debug s!"Skipping symlink: {path}" ++ listing s dir interruption (done + 1) es
      else
        match e with
        | .unreadable _ _ refusal =>
          refused dir refusal (refusal.text ++ ": " ++ Text.quoted path.text)
        | .special .. => listing s dir interruption (done + 1) es
        | .file .. => file s path ++ listing s dir interruption (done + 1) es
        | .directory _ _ entries inner =>
          (if path.isIgnored s.ignored then say .debug s!"Ignoring directory: {path}"
            else listing s path inner 0 entries) ++ listing s dir interruption (done + 1) es

end Walk

inductive SearchError where
  | missingRoot (root : Path)
  | notDirectory (root : Path)
  deriving DecidableEq, Repr

def SearchError.message : SearchError → String
  | missingRoot root => s!"Root directory does not exist: {root}"
  | notDirectory root => s!"Root path is not a directory: {root}"

namespace Search

def start (s : Search) (root : Path) (entries : List Entry) (interruption : Option Interruption) :
    Walk :=
  Walk.say .info s!"Starting traversal from: {root}" ++ Walk.listing s root interruption 0 entries

def sort (files : List Path) : List Path := files.mergeSort Path.le

/-- The sources below `root`, in order, if `root` is a directory. -/
def find (s : Search) (root : Path) : Option Entry → Except SearchError (List Path)
  | none => .error (.missingRoot root)
  | some (.directory _ _ entries interruption) =>
    .ok (sort (s.start root entries interruption).files)
  | some _ => .error (.notDirectory root)

def log (s : Search) (root : Path) : Option Entry → Log
  | none => [⟨.error, "traversal", (SearchError.missingRoot root).message⟩]
  | some (.directory _ _ entries interruption) =>
    let walk := s.start root entries interruption
    walk.log ++ [⟨.info, "traversal",
      s!"Traversal complete: found {walk.files.length} source file(s) in {root}"⟩]
  | some _ => [⟨.error, "traversal", (SearchError.notDirectory root).message⟩]

end Search

end AsyncActions
