import AsyncActions.Text.CaseTable

/-!
# Letter case

The full case mappings of Unicode. They go by single characters, except that a capital sigma at
the end of a word has a lower-case form of its own.
-/

namespace AsyncActions.Text

def inRanges (ranges : List (Nat × Nat)) (c : Char) : Bool :=
  ranges.any fun (first, last) => first ≤ c.toNat && c.toNat ≤ last

/-- The counterpart of a code point by a table of runs; itself, if no run has it. -/
def shift (runs : List (Nat × Nat × Nat × Int)) (n : Nat) : Nat :=
  match runs.find? fun (first, last, step, _) =>
      first ≤ n && n ≤ last && (n - first) % step = 0 with
  | some (_, _, _, distance) => (n + distance).toNat
  | none => n

def mapCase (long : List (Nat × List Nat)) (runs : List (Nat × Nat × Nat × Int)) (c : Char) :
    List Char :=
  match long.lookup c.toNat with
  | some ns => ns.map Char.ofNat
  | none => [Char.ofNat (shift runs c.toNat)]

def lowerChar (c : Char) : List Char := mapCase longLower lowerRuns c

def upperChar (c : Char) : List Char := mapCase longUpper upperRuns c

def nextIsCased (cs : List Char) : Bool :=
  (cs.dropWhile (inRanges passedRanges)).head?.any (inRanges casedRanges)

/-- Lower case, after the characters `before`, the nearest first. -/
def lowerAfter (before : List Char) : List Char → List Char
  | [] => []
  | c :: cs =>
    (if c = 'Σ' then [if nextIsCased before && !nextIsCased cs then 'ς' else 'σ'] else lowerChar c)
      ++ lowerAfter (c :: before) cs

def lower (s : String) : String := String.ofList (lowerAfter [] s.toList)

def upper (s : String) : String := String.ofList (s.toList.flatMap upperChar)

end AsyncActions.Text
