import AsyncActions.Text.CodePoint
import AsyncActions.Tree.Node

/-!
# Values of string literals

`cook` replaces the escapes in the body of a literal by what they stand for. An escape that is
cut short, or that names no code point, affects only itself.
-/

namespace AsyncActions

namespace Escape

def lit (c : Char) : CodePoint := CodePoint.ofChar c

def backslash : CodePoint := lit '\\'

/-- What the code point stands for after a backslash, on its own. Line ends stand for nothing. -/
def single (c : CodePoint) : Text :=
  if c = lit 'n' then [lit '\n']
  else if c = lit 't' then [lit '\t']
  else if c = lit 'r' then [lit '\r']
  else if c = lit 'b' then [lit '\x08']
  else if c = lit 'f' then [lit '\x0c']
  else if c = lit 'v' then [lit '\x0b']
  else if c = lit '0' then [lit '\x00']
  else if c = lit '\n' ∨ c = lit '\r' ∨ c = lit '\u2028' ∨ c = lit '\u2029' then []
  else [c]

def hexValue? (acc : Nat) : Text → Option Nat
  | [] => some acc
  | c :: cs => c.hexDigit?.bind fun d => hexValue? (16 * acc + d) cs

def hexRun? (n : Nat) (cs : Text) : Option (Nat × Text) :=
  if cs.length < n then none else (hexValue? 0 (cs.take n)).map fun v => (v, cs.drop n)

/-- The digits of a braced number, its value and what follows the closing brace. The list starts
after the opening brace. -/
def braced? (cs : Text) : Option (Text × Nat × Text) :=
  let digits := cs.takeWhile fun c => c.hexDigit?.isSome
  match cs.dropWhile fun c => c.hexDigit?.isSome with
  | close :: rest =>
    if close = lit '\x7d' ∧ digits ≠ [] then
      (hexValue? 0 digits).map fun v => (digits, v, rest)
    else none
  | [] => none

/-- A code point as text, or the escape that was meant to name it. -/
def named (v : Nat) (escape : Text) : Text :=
  match CodePoint.ofNat? v with
  | some c => [c]
  | none => escape

/-- After a backslash and `u`: a braced number, four digits, or the letter itself. -/
def unicode (rest : Text) : Text × Text :=
  let plain : Text × Text :=
    match hexRun? 4 rest with
    | some (v, rest') => (named v [], rest')
    | none => ([lit 'u'], rest)
  match rest with
  | open_ :: rest' =>
    if open_ = lit '\x7b' then
      match braced? rest' with
      | some (digits, v, rest'') =>
        (named v ([backslash, lit 'u', open_] ++ digits ++ [lit '\x7d']), rest'')
      | none => plain
    else plain
  | [] => plain

/-- What the escape stands for whose first code point after the backslash is `c`, and what
follows it. -/
def read (c : CodePoint) (rest : Text) : Text × Text :=
  if c = lit 'u' then unicode rest
  else if c = lit 'x' then
    match hexRun? 2 rest with
    | some (v, rest') => (named v [], rest')
    | none => ([c], rest)
  else if c = lit '\r' ∧ rest.head? = some (lit '\n') then ([], rest.tail)
  else (single c, rest)

theorem hexRun?_length {n v : Nat} {cs rest : Text} (h : hexRun? n cs = some (v, rest)) :
    rest.length ≤ cs.length := by
  unfold hexRun? at h
  split at h
  · cases h
  · obtain ⟨_, _, hr⟩ := Option.map_eq_some_iff.1 h
    cases hr
    simp

theorem braced?_length {cs digits rest : Text} {v : Nat}
    (h : braced? cs = some (digits, v, rest)) : rest.length < cs.length := by
  have hd : (cs.dropWhile fun c => c.hexDigit?.isSome).length ≤ cs.length :=
    (List.dropWhile_suffix _).length_le
  simp only [braced?] at h
  split at h
  · rename_i close rest' hdrop
    split at h
    · obtain ⟨_, _, hr⟩ := Option.map_eq_some_iff.1 h
      cases hr
      rw [hdrop, List.length_cons] at hd
      omega
    · cases h
  · cases h

theorem unicode_length (rest : Text) : (unicode rest).2.length ≤ rest.length := by
  have plain : (match hexRun? 4 rest with
      | some (v, rest') => (named v [], rest')
      | none => ([lit 'u'], rest)).2.length ≤ rest.length := by
    split
    · next h => exact hexRun?_length h
    · exact Nat.le_refl _
  unfold unicode
  simp only
  split
  · split
    · split
      · next h =>
        have := braced?_length h
        simp only [List.length_cons]
        omega
      · exact plain
    · exact plain
  · exact plain

theorem read_length (c : CodePoint) (rest : Text) : (read c rest).2.length ≤ rest.length := by
  unfold read
  split
  · exact unicode_length rest
  · split
    · split
      · next h => exact hexRun?_length h
      · exact Nat.le_refl _
    · split
      · simp
      · exact Nat.le_refl _

end Escape

/-- The body of a literal with its escapes replaced. A backslash at the very end stays. -/
def cook : Text → Text
  | [] => []
  | c :: rest =>
    if c = Escape.backslash then
      match rest with
      | [] => [c]
      | d :: rest' => (Escape.read d rest').1 ++ cook (Escape.read d rest').2
    else c :: cook rest
termination_by cs => cs.length
decreasing_by
  · have := Escape.read_length d rest'
    simp only [List.length_cons]
    omega
  · simp

theorem cook_append_of_plain {p : Text} (h : ∀ c ∈ p, c ≠ Escape.backslash) (cs : Text) :
    cook (p ++ cs) = p ++ cook cs := by
  induction p with
  | nil => rfl
  | cons c p ih =>
    rw [List.cons_append, cook.eq_def]
    simp only [h c List.mem_cons_self, if_false]
    rw [ih fun d hd => h d (List.mem_cons_of_mem _ hd), List.cons_append]

theorem cook_of_plain {cs : Text} (h : ∀ c ∈ cs, c ≠ Escape.backslash) : cook cs = cs := by
  have hc := cook_append_of_plain h []
  rwa [List.append_nil, cook, List.append_nil] at hc

def unquote? (cs : List Char) : Option (List Char) :=
  match cs with
  | first :: rest =>
    if rest.getLast? = some first ∧ (first = '\x27' ∨ first = '\x22' ∨ first = '\x60') then
      some rest.dropLast
    else none
  | [] => none

namespace Node

/-- The static value of a string, or of a template without substitutions. -/
def literalValue? (source : Bytes) (n : Node) : Option Text :=
  if n.type = "string" ∨ (n.type = "template_string" ∧
      ¬ n.namedChildren.any (·.type = "template_substitution")) then
    (unquote? (n.text source)).map fun body => cook (body.map CodePoint.ofChar)
  else none

end Node

end AsyncActions
