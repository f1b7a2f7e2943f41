import AsyncActions.Edit
import AsyncActions.Source
import AsyncActions.Workspace

/-!
# Amending files

The first suggestion of each finding is applied to the source that was read, and the result is
written to its file. A file that cannot be written stays as it is.
-/

namespace AsyncActions

/-- The workspace after a file was amended, how many edits were made in it, and what was said. -/
structure Amended where
  workspace : Workspace
  count : Except EditError Nat
  log : Log

namespace Source

def amendedRecord (source : Source) (count : Nat) : Record :=
  ⟨.info, "main", s!"Applied {count} suggestion(s) to {source.path}"⟩

def unwrittenRecord (source : Source) (e : SystemError) : Record :=
  ⟨.error, "main", s!"Failed to write file {source.path}: {e.message source.path}"⟩

/-- Apply the suggestions of findings about a source, and write the file if there are any. -/
def amend (source : Source) (ws : Workspace) (findings : List Finding) : Amended :=
  let skipped := Fix.applyLog (chosenFixes findings)
  match applySuggestions source.bytes findings with
  | .error e => ⟨ws, .error e, skipped⟩
  | .ok edited =>
    if edited.applied = [] then ⟨ws, .ok 0, skipped⟩
    else
      match ws.write source.path edited.source with
      | .ok written =>
        ⟨written, .ok edited.applied.length, skipped ++ [source.amendedRecord edited.applied.length]⟩
      | .error e => ⟨ws, .ok 0, skipped ++ [source.unwrittenRecord e]⟩

end Source

end AsyncActions
