import AsyncActions.Finding.Basic
import AsyncActions.Log
import AsyncActions.Text.Utf8

/-!
# Applying fixes

Fixes are insertions at offsets of one source. They are applied from the highest offset down, so
that each stands where it was meant. Of two fixes at one offset only the first counts.
-/

namespace AsyncActions

/-- A fix whose offset is past the end of a source of that many bytes. -/
inductive EditError where
  | pastEnd (offset size : Nat)
  deriving DecidableEq, Repr

def EditError.message : EditError → String
  | pastEnd offset size => s!"Fix offset {offset} is past end of source ({size} bytes)"

namespace Fix

def bytes (fix : Fix) : Bytes := Utf8.encodeString fix.text

def insertInto (source : Bytes) (fix : Fix) : Except EditError Bytes :=
  if source.length < fix.offset then .error (.pastEnd fix.offset source.length)
  else .ok (source.take fix.offset ++ fix.bytes ++ source.drop fix.offset)

/-- The fixes that count: at each offset the first. -/
def firsts : List Fix → List Fix
  | [] => []
  | f :: fs => f :: (firsts fs).filter (·.offset ≠ f.offset)

/-- The fixes that do not count, in order; `seen` are offsets already taken. -/
def repeats (seen : List Nat) : List Fix → List Fix
  | [] => []
  | f :: fs => if seen.contains f.offset then f :: repeats seen fs else repeats (f.offset :: seen) fs

def sorted (fixes : List Fix) : List Fix := fixes.mergeSort fun f g => f.offset ≤ g.offset

def skipRecord (fix : Fix) : Record :=
  ⟨.debug, "fixes", s!"Skipping overlapping fix at offset {fix.offset}"⟩

/-- What applying fixes gave: the new source and the fixes that were applied, by offset. -/
structure Edited where
  source : Bytes
  applied : List Fix

def applyAll (source : Bytes) (fixes : List Fix) : Except EditError Edited :=
  let applied := sorted (firsts fixes)
  (applied.reverse.foldlM insertInto source).map fun result => ⟨result, applied⟩

def applyLog (fixes : List Fix) : Log := (repeats [] fixes).map skipRecord

end Fix

def Finding.fix? (f : Finding) : Option Fix := f.suggestions.head?.map (·.fix)

/-- The first suggestion of each finding that has one. -/
def chosenFixes (findings : List Finding) : List Fix := findings.filterMap Finding.fix?

def applySuggestions (source : Bytes) (findings : List Finding) : Except EditError Fix.Edited :=
  Fix.applyAll source (chosenFixes findings)

end AsyncActions
