/-!
# Paths

A path is a root and the names on the way from it. Repeated slashes and single points leave no
trace; double points stay, since a link may make them mean something else.
-/

namespace AsyncActions

/-- What a path starts from. Two slashes at the start are a root of their own. -/
inductive PathRoot where
  | relative
  | absolute
  | doubled
  deriving DecidableEq, Repr

def PathRoot.text : PathRoot → String
  | relative => ""
  | absolute => "/"
  | doubled => "//"

structure Path where
  root : PathRoot
  parts : List String
  deriving DecidableEq, Repr

namespace Path

def pieces (cs : List Char) : List (List Char) :=
  match cs with
  | [] => [[]]
  | c :: cs =>
    if c = '/' then [] :: pieces cs
    else
      match pieces cs with
      | p :: ps => (c :: p) :: ps
      | [] => [[c]]

/-- A piece that is a step on the way. -/
def isStep (piece : List Char) : Bool := piece ≠ [] && piece ≠ ['.']

def ofString (s : String) : Path :=
  let cs := s.toList
  let root :=
    match (cs.takeWhile (· = '/')).length with
    | 0 => PathRoot.relative
    | 2 => .doubled
    | _ => .absolute
  ⟨root, ((pieces cs).filter isStep).map String.ofList⟩

/-- The normal form of a path; the empty path is a point. -/
def text (p : Path) : String :=
  if p.root = .relative ∧ p.parts = [] then "." else p.root.text ++ "/".intercalate p.parts

instance : ToString Path := ⟨text⟩

def name (p : Path) : String := p.parts.getLast?.getD ""

/-- A name cut before its last point, unless the point leads or ends it. -/
def splitName (name : List Char) : List Char × List Char :=
  let tail := (name.reverse.takeWhile (· ≠ '.')).reverse
  let cut := name.length - tail.length - 1
  if tail.length < name.length ∧ 0 < cut ∧ tail ≠ [] then (name.take cut, name.drop cut)
  else (name, [])

def suffix (p : Path) : String := String.ofList (splitName p.name.toList).2

def stem (p : Path) : String := String.ofList (splitName p.name.toList).1

def isAbsolute (p : Path) : Bool := p.root ≠ .relative

def push (p : Path) (name : String) : Path := ⟨p.root, p.parts ++ [name]⟩

def join (p q : Path) : Path :=
  if q.isAbsolute then q else ⟨p.root, p.parts ++ q.parts⟩

/-- The way from `base` to `p`, if `p` lies below it. -/
def relativeTo? (p base : Path) : Option Path :=
  if p.root = base.root ∧ base.parts.isPrefixOf p.parts then
    some ⟨.relative, p.parts.drop base.parts.length⟩
  else none

/-- The order of lists of names: by the first name that differs. -/
def namesLe : List String → List String → Bool
  | [], _ => true
  | _ :: _, [] => false
  | a :: as, b :: bs => if a = b then namesLe as bs else a ≤ b

/-- The order of the names, one after the other, each by its characters. -/
def le (p q : Path) : Bool := namesLe (p.root.text :: p.parts) (q.root.text :: q.parts)

end Path

end AsyncActions
