import AsyncActions.Text.Utf8

/-!
# Parse trees

A tree of grammar rules (named nodes) and keywords or punctuation (anonymous nodes), each with
its place in the source. Nothing is assumed of the places: they may be reversed or lie outside.
-/

namespace AsyncActions

structure Point where
  row : Int
  column : Int
  deriving DecidableEq, Repr, Inhabited

/-- The stretch of source that a node covers. -/
structure Extent where
  startByte : Int
  endByte : Int
  startPoint : Point
  endPoint : Point
  deriving DecidableEq, Repr, Inhabited

/-- A node of a parse tree; `field` is its role under its parent. -/
inductive Node where
  | mk (type : String) (named : Bool) (field : Option String) (extent : Extent)
      (children : List Node)
  deriving Repr, Inhabited

namespace Node

def type : Node → String
  | mk t .. => t

def named : Node → Bool
  | mk _ n .. => n

def field : Node → Option String
  | mk _ _ f .. => f

def extent : Node → Extent
  | mk _ _ _ e _ => e

def children : Node → List Node
  | mk _ _ _ _ cs => cs

def startByte (n : Node) : Int := n.extent.startByte
def endByte (n : Node) : Int := n.extent.endByte
def startPoint (n : Node) : Point := n.extent.startPoint
def endPoint (n : Node) : Point := n.extent.endPoint

def withField (n : Node) (field : String) : Node :=
  mk n.type n.named (some field) n.extent n.children

def namedChildren (n : Node) : List Node := n.children.filter named

def child? (n : Node) (field : String) : Option Node :=
  n.children.find? fun c => c.field = some field

/-- Some keyword or punctuation directly under the node is one of these. -/
def hasToken (n : Node) (tokens : List String) : Bool :=
  n.children.any fun c => !c.named && tokens.contains c.type

mutual

/-- The node and all below it, each before its descendants and earlier siblings first. -/
def preorder : Node → List Node
  | mk t n f e cs => mk t n f e cs :: preorderAll cs

def preorderAll : List Node → List Node
  | [] => []
  | c :: cs => c.preorder ++ preorderAll cs

end

mutual

def size : Node → Nat
  | mk _ _ _ _ cs => 1 + sizeAll cs

def sizeAll : List Node → Nat
  | [] => 0
  | c :: cs => c.size + sizeAll cs

end

def text (source : Bytes) (n : Node) : List Char :=
  Utf8.decode (source.slice n.startByte n.endByte)

end Node

end AsyncActions
