import AsyncActions.Path
import AsyncActions.Tree.Node

/-!
# Sources

A source file that was read and parsed.
-/

namespace AsyncActions

structure Source where
  path : Path
  bytes : Bytes
  root : Node
  /-- Some of the text is not of the language. -/
  broken : Bool

end AsyncActions
