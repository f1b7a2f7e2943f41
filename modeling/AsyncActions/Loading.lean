import AsyncActions.Grammar.Program
import AsyncActions.Source
import AsyncActions.Tree.Function
import AsyncActions.Workspace

/-!
# Loading sources

A file is read, parsed by the grammar of its language, and counted. A file that cannot be read is
left out; a file that is not of its language is kept and marked.
-/

namespace AsyncActions

structure Loaded where
  source : Option Source
  log : Log

namespace Loading

/-- What is said about a source that was parsed. The nodes of a tree that is not whole do not count. -/
def records (source : Source) (whole : Bool) : Log :=
  let nodes := if whole then toString source.root.size else "N"
  let functions := source.root.functionCount
  let counted := s!"Parsed {source.path}: {nodes} nodes, {functions} function(s)"
  if source.broken then
    [⟨.warning, "parser", s!"Parse completed with errors: root={source.root.type}"⟩,
     ⟨.warning, "context", s!"File {source.path} parsed with syntax errors; AST may be incomplete"⟩,
     ⟨.info, "context", counted ++ " (with parse errors)"⟩]
  else
    [⟨.debug, "parser", s!"Parse succeeded: root={source.root.type}"⟩, ⟨.info, "context", counted⟩]

def load (parser : Parser) (ws : Workspace) (path : Path) (language : Language) : Loaded :=
  match ws.read path with
  | .error e => ⟨none, [⟨.error, "context", s!"Failed to read file {path}: {e.message path}"⟩]⟩
  | .ok bytes =>
    let parse := parser language bytes
    let source : Source := ⟨path, bytes, parse.root, parse.broken⟩
    ⟨some source, records source parse.whole⟩

/-- Read and parse one file, in the language of its suffix unless one is given. -/
def loadOne (parser : Parser) (ws : Workspace) (path : Path) (language : Option Language) :
    Except LanguageError Loaded :=
  match language with
  | some l => .ok (load parser ws path l)
  | none => path.language.map (load parser ws path)

/-- Read and parse files in order. A file in no known language ends it. -/
def loadAll (parser : Parser) (ws : Workspace) (paths : List Path) :
    Except LanguageError (List Source × Log) := do
  let loaded ← paths.mapM fun p => loadOne parser ws p none
  return (loaded.filterMap (·.source), loaded.flatMap (·.log))

end Loading

end AsyncActions
