import AsyncActions.Grammar.Statement

/-!
# Programs

The rules of the grammar refer to each other; a bound on their nesting ties them together. Each
step of nesting reads on, so a bound that grows with the text is never met.
-/

namespace AsyncActions.Grammar

def apply (rules : Rules) : Rules
  | .statement => statement rules
  | .block => block rules
  | .expression context => expression rules context
  | .binary context least => binary rules context least
  | .operand context => operand rules context
  | .pattern => pattern rules
  | .parameters => parameters rules
  | .classBody => classBody rules
  | .element => element rules
  | .type => type rules

/-- The rules, with at most that many nested in each other. -/
def rulesWithin : Nat → Rules
  | 0 => fun _ => failure
  | depth + 1 => apply (rulesWithin depth)

def interpreterLine : Read (List Node) := do
  let input ← read
  let i ← tokenStart
  ensure (input.startsAt i ['#', '!'])
  let j := input.skipWhile (· ≠ '\n') i
  return [← take "hash_bang_line" true i j]

def program (rules : Rules) : Read Node := do
  let first ← optional interpreterLine
  let body ← items ((fun n => [n]) <$> rules .statement) fun _ => false
  build "program" 0 (first.getD [] ++ body)

end AsyncActions.Grammar

namespace AsyncActions

/-- A parsed source: its tree, and whether some of the text is not of the language. A tree is whole
if all tokens are nodes of it. -/
structure Parse where
  root : Node
  broken : Bool
  whole : Bool

abbrev Parser := Language → Bytes → Parse

/-- The tree of a source, without the tokens that nothing looks at. -/
def Grammar.parse : Parser := fun language source =>
  let input := Grammar.Input.ofBytes language source
  let depth := 8 * input.chars.size + 64
  match (Grammar.program (Grammar.rulesWithin depth)).run input |>.run ⟨0, false⟩ with
  | some (root, cursor) => ⟨root, cursor.broken, false⟩
  | none => ⟨.mk "program" true none (input.extent 0 input.chars.size) [], true, false⟩

end AsyncActions
