/-!
# Similar texts

How much two texts have in common: the longest stretch that is in both, and then, on either side
of it, the same again.
-/

namespace AsyncActions.Text

def commonStart : List Char → List Char → Nat
  | a :: as, b :: bs => if a = b then commonStart as bs + 1 else 0
  | _, _ => 0

/-- A stretch that two texts share: where it starts in each, and how long it is. -/
structure Shared where
  left : Nat
  right : Nat
  size : Nat

def longestShared (as bs : List Char) : Shared :=
  let pairs := (List.range as.length).flatMap fun i => (List.range bs.length).map fun j =>
    Shared.mk i j (commonStart (as.drop i) (bs.drop j))
  pairs.foldl (fun best s => if best.size < s.size then s else best) ⟨0, 0, 0⟩

/-- The characters that two texts have in common. No more rounds are needed than the first text
has characters. -/
def sharedCount (rounds : Nat) (as bs : List Char) : Nat :=
  match rounds with
  | 0 => 0
  | rounds + 1 =>
    let s := longestShared as bs
    if s.size = 0 then 0
    else
      s.size + sharedCount rounds (as.take s.left) (bs.take s.right) +
        sharedCount rounds (as.drop (s.left + s.size)) (bs.drop (s.right + s.size))

/-- The characters that two texts have in common, out of the length of both. -/
structure Likeness where
  shared : Nat
  total : Nat

namespace Likeness

def of (a b : String) : Likeness :=
  let as := a.toList
  let bs := b.toList
  ⟨2 * sharedCount as.length as bs, as.length + bs.length⟩

def isClose (l : Likeness) : Bool := 6 * l.total ≤ 10 * l.shared

def le (l m : Likeness) : Bool := l.shared * m.total ≤ m.shared * l.total

end Likeness

/-- Up to three names that are most like another one, in alphabetical order. -/
def closeMatches (name : String) (names : List String) : List String :=
  let rated := (names.map fun n => (Likeness.of n name, n)).filter (·.1.isClose)
  let best := rated.mergeSort fun (l, n) (m, o) => if l.le m && m.le l then o ≤ n else m.le l
  ((best.take 3).map Prod.snd).mergeSort fun a b => a ≤ b

end AsyncActions.Text
