/-!
# Source languages

The three grammars, their names and the file suffixes that select them.
-/

namespace AsyncActions

inductive Language where
  | javascript
  | typescript
  | tsx
  deriving DecidableEq, Repr

namespace Language

def name : Language → String
  | javascript => "javascript"
  | typescript => "typescript"
  | tsx => "tsx"

def ofName? : String → Option Language
  | "javascript" => some javascript
  | "typescript" => some typescript
  | "tsx" => some tsx
  | _ => none

theorem ofName?_name (l : Language) : ofName? l.name = some l := by
  cases l <;> decide

def hasTypes : Language → Bool
  | javascript => false
  | typescript => true
  | tsx => true

def hasElements : Language → Bool
  | javascript => true
  | typescript => false
  | tsx => true

/-- The lower-case file suffixes and the grammars they select. -/
def suffixes : List (String × Language) :=
  [(".js", javascript), (".jsx", javascript), (".mjs", javascript), (".cjs", javascript),
   (".ts", typescript), (".mts", typescript), (".cts", typescript), (".tsx", tsx)]

def ofSuffix? (suffix : String) : Option Language := suffixes.lookup suffix

end Language

end AsyncActions
