import AsyncActions.Discovery
import AsyncActions.Text.Utf8

/-!
# Workspaces

Files, directories, links and pipes as a value, with what the system does when a path is looked
up, read or written. The directories above the working directory always exist.
-/

namespace AsyncActions

structure Access where
  readable : Bool
  writable : Bool
  deriving DecidableEq, Repr

/-- What may be done with a directory: list its names, and look at what stands at them. -/
structure DirectoryAccess where
  listable : Bool
  searchable : Bool
  deriving DecidableEq, Repr

def DirectoryAccess.full : DirectoryAccess := ⟨true, true⟩

inductive Item where
  | file (contents : Bytes) (access : Access)
  | directory (access : DirectoryAccess := .full)
  | link (target : Path)
  | pipe
  deriving DecidableEq, Repr

/-- Items by their absolute paths, and the working directory. -/
structure Workspace where
  directory : Path
  items : List (Path × Item)

inductive SystemError where
  | notFound
  | denied
  | notDirectory
  | isDirectory
  | linkLoop
  deriving DecidableEq, Repr

namespace SystemError

def text : SystemError → String
  | notFound => "[Errno 2] No such file or directory"
  | denied => "[Errno 13] Permission denied"
  | notDirectory => "[Errno 20] Not a directory"
  | isDirectory => "[Errno 21] Is a directory"
  | linkLoop => "[Errno 40] Too many levels of symbolic links"

def message (e : SystemError) (path : Path) : String := e.text ++ ": " ++ Text.quoted path.text

end SystemError

namespace Path

/-- The directory that holds the path; the root holds itself. -/
def parent (p : Path) : Path := ⟨p.root, p.parts.dropLast⟩

end Path

namespace Workspace

/-- The way to the working directory, on which every step is a directory. -/
def isAbove (ws : Workspace) (p : Path) : Bool := p.parts.isPrefixOf ws.directory.parts

/-- What may be done in a directory on that way: everything, unless an item says otherwise. -/
def accessAbove (ws : Workspace) (p : Path) : DirectoryAccess :=
  match ws.items.lookup p with
  | some (.directory access) => access
  | _ => .full

def item? (ws : Workspace) (p : Path) : Option Item :=
  if ws.isAbove p then some (.directory (ws.accessAbove p)) else ws.items.lookup p

def isSearchable (ws : Workspace) (p : Path) : Bool :=
  match ws.item? p with
  | some (.directory access) => access.searchable
  | _ => true

def isOpen (ws : Workspace) (p : Path) : Bool :=
  (List.range p.parts.length).all fun n => ws.isSearchable ⟨p.root, p.parts.take n⟩

/-- Where the link at a path leads, if it can be seen that there is one. -/
def linkAt? (ws : Workspace) (p : Path) : Option Path :=
  match ws.item? p with
  | some (.link target) => if ws.isOpen p then some target else none
  | _ => none

/-- The absolute form of a path, links and double points included. -/
def absolute (ws : Workspace) (p : Path) : Path :=
  if p.isAbsolute then ⟨.absolute, p.parts⟩ else ⟨.absolute, ws.directory.parts ++ p.parts⟩

/-- Every link inside a link is another one, so this bounds how deep they nest. -/
def linkDepth (ws : Workspace) : Nat :=
  (ws.items.filter fun (_, i) => match i with | .link _ => true | _ => false).length + 1

def linkStart (place target : Path) : Path :=
  if target.isAbsolute then ⟨.absolute, []⟩ else place

/-- Follow names and links from `place`. What does not exist is kept as it is written. A link
inside itself ends the way: then the rest is kept too. -/
def walk (ws : Workspace) (depth : Nat) (pending : List Path) (place : Path) (steps : List String) :
    Except Path Path :=
  match steps with
  | [] => .ok place
  | name :: rest =>
    if name = ".." then ws.walk depth pending place.parent rest
    else
      match ws.linkAt? (place.push name) with
      | some target =>
        if pending.contains (place.push name) then .error (place.push name |>.join ⟨.relative, rest⟩)
        else
          match depth with
          | 0 => .error (place.push name |>.join ⟨.relative, rest⟩)
          | depth' + 1 =>
            match ws.walk depth' (place.push name :: pending) (linkStart place target) target.parts with
            | .ok place' => ws.walk (depth' + 1) pending place' rest
            | .error stuck => .error (stuck.join ⟨.relative, rest⟩)
      | none => ws.walk depth pending (place.push name) rest
termination_by (depth, steps.length)

/-- The path with no links and no double points, or the path at which links run in a circle. -/
def resolve (ws : Workspace) (p : Path) : Except Path Path :=
  ws.walk ws.linkDepth [] ⟨.absolute, []⟩ (ws.absolute p).parts

/-- The path as seen from the working directory, if it lies in it; else the path as it is. -/
def shorten (ws : Workspace) (p : Path) : Except Path Path :=
  (ws.resolve p).map fun resolved => (resolved.relativeTo? ws.directory).getD p

/-! ## What the system finds -/

def barrier? (ws : Workspace) (place : Path) : Option SystemError :=
  match ws.item? place with
  | some (.directory access) => if access.searchable then none else some .denied
  | _ => some .notDirectory

/-- Look up a path as the system does: every step before the last is a directory that may be
searched. With `create`, the last name need not exist. -/
def locateFrom (ws : Workspace) (create : Bool) (depth : Nat) (place : Path) (steps : List String) :
    Except SystemError Path :=
  match steps with
  | [] => .ok place
  | name :: rest =>
    match ws.barrier? place with
    | some e => .error e
    | none =>
      if name = ".." then ws.locateFrom create depth place.parent rest
      else
        match ws.item? (place.push name) with
        | none => if create && rest.isEmpty then .ok (place.push name) else .error .notFound
        | some (.link target) =>
          match depth with
          | 0 => .error .linkLoop
          | depth' + 1 =>
            match ws.locateFrom (create && rest.isEmpty) depth' (linkStart place target) target.parts with
            | .ok place' => ws.locateFrom create (depth' + 1) place' rest
            | .error e => .error e
        | some _ => ws.locateFrom create depth (place.push name) rest
termination_by (depth, steps.length)

def status (ws : Workspace) (p : Path) : Except SystemError Item := do
  let place ← ws.locateFrom false ws.linkDepth ⟨.absolute, []⟩ (ws.absolute p).parts
  match ws.item? place with
  | some item => .ok item
  | none => .error .notFound

/-- The contents of a file. A pipe into which nothing is written has none. -/
def read (ws : Workspace) (p : Path) : Except SystemError Bytes := do
  match ← ws.status p with
  | .file contents access => if access.readable then .ok contents else .error .denied
  | .directory _ => .error .isDirectory
  | .link _ | .pipe => .ok []

def put (ws : Workspace) (place : Path) (item : Item) : Workspace :=
  { ws with items := (place, item) :: ws.items.filter fun (p, _) => p ≠ place }

def write (ws : Workspace) (p : Path) (contents : Bytes) : Except SystemError Workspace := do
  let place ← ws.locateFrom true ws.linkDepth ⟨.absolute, []⟩ (ws.absolute p).parts
  match ws.item? place with
  | none => .ok (ws.put place (.file contents ⟨true, true⟩))
  | some (.file _ access) =>
    if access.writable then .ok (ws.put place (.file contents access)) else .error .denied
  | some (.directory _) => .error .isDirectory
  | some (.link _) | some .pipe => .ok ws

/-! ## Directories as trees -/

def within (ws : Workspace) (p : Path) : List (Path × Item) :=
  ws.items.filter fun (q, _) => q ≠ p ∧ q.parent = p

/-- The tree at a path without links, to a depth. Links are not followed, so what they lead to does
not matter. The names in a directory that may not be searched are all that is known of what stands
in it, not even whether it is a link. -/
def entryAt (ws : Workspace) : Nat → Path → Item → Entry
  | _, p, .file .. => .file p.name false
  | _, p, .link _ => .special p.name true
  | _, p, .pipe => .special p.name false
  | 0, p, .directory _ => .directory p.name false [] none
  | depth + 1, p, .directory access =>
    if access.listable then
      .directory p.name false
        ((ws.within p).map fun (q, i) =>
          if access.searchable then ws.entryAt depth q i else .unreadable q.name false .denied)
        none
    else .directory p.name false [] (some ⟨0, .denied (some p)⟩)

def depth (ws : Workspace) : Nat := (ws.items.map fun (p, _) => p.parts.length).foldl max 0 + 1

def tree? (ws : Workspace) (p : Path) : Option Entry := (ws.item? p).map (ws.entryAt ws.depth p)

end Workspace

end AsyncActions
