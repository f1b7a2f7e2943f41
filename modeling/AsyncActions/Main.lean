import AsyncActions.Command.Run

/-!
# The program

The files that may be looked at are named on standard input, a name on each line. They are read
into a workspace, the command runs on it, and what it changed is written back.
-/

open AsyncActions

/-- The lines of standard input. -/
partial def readNames (input : IO.FS.Stream) (names : List String) : IO (List String) := do
  let line ← input.getLine
  if line.isEmpty then return names.reverse
  readNames input (line.trimAsciiEnd.toString :: names)

def readItem (directory : Path) (name : String) : IO (Option (Path × Item)) := do
  let path := directory.join (.ofString name)
  match ← (IO.FS.readBinFile path.text).toBaseIO with
  | .ok contents => return some (path, .file contents.toList ⟨true, true⟩)
  | .error _ => return none

/-- The directories on the way to a path, itself excluded. -/
def directoriesAbove (path : Path) : List Path :=
  (List.range path.parts.length).map fun n => ⟨path.root, path.parts.take n⟩

def workspaceOf (directory : Path) (files : List (Path × Item)) : Workspace :=
  let directories := (files.flatMap fun (p, _) => directoriesAbove p).eraseDups
  ⟨directory, files ++ directories.map fun p => (p, .directory)⟩

def writeChanges (before after : Workspace) : IO Unit :=
  after.items.forM fun (path, item) =>
    match item with
    | .file contents _ =>
      if before.item? path = some item then return else IO.FS.writeBinFile path.text ⟨contents.toArray⟩
    | _ => return

def recordLine (r : Record) : String := s!"{r.level.name}: actionscan.{r.speaker}: {r.message}"

def main (args : List String) : IO UInt32 := do
  let directory := Path.ofString ((← IO.getEnv "PWD").getD "/")
  let width := ((← IO.getEnv "COLUMNS").bind String.toNat?).getD 80
  let files ← (← readNames (← IO.getStdin) []).filterMapM (readItem directory)
  let ws := workspaceOf directory files
  let done := Command.run Grammar.parse .default width ws args
  writeChanges ws done.workspace
  done.log.forM fun r => IO.eprintln (recordLine r)
  done.lines.forM IO.println
  match done.exitCode with
  | .ok _ => pure ()
  | .error e => IO.eprintln s!"Error: {e.message}"
  return done.code.toUInt32
