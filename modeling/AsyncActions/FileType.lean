import AsyncActions.Language
import AsyncActions.Path
import AsyncActions.Text.Case

/-!
# File types

The suffix of a file, in either case, says in which language it is written.
-/

namespace AsyncActions

inductive LanguageError where
  | unknownName (name : String)
  | unsupportedFile (path : Path)
  deriving DecidableEq, Repr

def LanguageError.message : LanguageError → String
  | unknownName name => s!"Unknown language: {name}"
  | unsupportedFile path => s!"Unsupported file type: {path}"

def Language.find (name : String) : Except LanguageError Language :=
  match Language.ofName? name with
  | some l => .ok l
  | none => .error (.unknownName name)

namespace Language

def javascriptSuffixes : List String :=
  (suffixes.filter fun (_, l) => l = javascript).map Prod.fst

def typescriptSuffixes : List String :=
  (suffixes.filter fun (_, l) => l ≠ javascript).map Prod.fst

end Language

namespace Path

/-- The suffix in lower case. -/
def fileType (p : Path) : String := Text.lower p.suffix

def language (p : Path) : Except LanguageError Language :=
  match Language.ofSuffix? p.fileType with
  | some l => .ok l
  | none => .error (.unsupportedFile p)

def isJavascript (p : Path) : Bool := Language.javascriptSuffixes.contains p.fileType

def isTypescript (p : Path) : Bool := Language.typescriptSuffixes.contains p.fileType

def isSource (p : Path) (includeTypescript : Bool) : Bool :=
  p.isJavascript || (includeTypescript && p.isTypescript)

/-- A directory that is not looked into. Only its own name counts. -/
def isIgnored (p : Path) (ignored : List String) : Bool := ignored.contains p.name

end Path

end AsyncActions
