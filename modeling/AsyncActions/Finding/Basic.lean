import AsyncActions.Path

/-!
# Findings

What a rule reports: where, what, and which insertion would mend it.
-/

namespace AsyncActions

/-- A number that counts from one, such as a line. -/
structure Ordinal where
  val : Nat
  pos : 1 ≤ val
  deriving DecidableEq

namespace Ordinal

def ofInt? (i : Int) : Option Ordinal :=
  if h : 1 ≤ i.toNat then some ⟨i.toNat, h⟩ else none

/-- The ordinal of a place that is counted from zero. -/
def after (n : Nat) : Ordinal := ⟨n + 1, by omega⟩

instance : ToString Ordinal := ⟨fun o => toString o.val⟩

end Ordinal

/-- An insertion of text before a byte. Line and column are for display only. -/
structure Fix where
  offset : Nat
  text : String
  line : Ordinal
  column : Ordinal
  deriving DecidableEq

structure Suggestion where
  messageId : String
  description : String
  fix : Fix
  deriving DecidableEq

structure Location where
  path : Path
  line : Ordinal
  column : Ordinal
  endLine : Option Ordinal
  endColumn : Option Ordinal
  snippet : Option String
  deriving DecidableEq

structure Finding where
  ruleId : String
  message : String
  location : Location
  messageId : Option String
  severity : String
  suggestions : List Suggestion
  deriving DecidableEq

def defaultSeverity : String := "warning"

/-! ## Faults in a record -/

inductive Fault where
  | missing
  | belowMinimum
  | notInteger
  | unreadableInteger
  | fractional
  | notText
  | notPath
  | notRecord
  | notSequence
  | fixed
  deriving DecidableEq, Repr

def Fault.name : Fault → String
  | missing => "missing"
  | belowMinimum => "greater_than_equal"
  | notInteger => "int_type"
  | unreadableInteger => "int_parsing"
  | fractional => "int_from_float"
  | notText => "string_type"
  | notPath => "path_type"
  | notRecord => "model_type"
  | notSequence => "tuple_type"
  | fixed => "frozen_instance"

/-- A fault and the field that has it, named by the steps from the record to it. -/
structure Flaw where
  field : List String
  fault : Fault
  deriving DecidableEq, Repr

/-- The same flaw, seen from the record that holds `name`. -/
def Flaw.under (name : String) (f : Flaw) : Flaw := { f with field := name :: f.field }

/-- Flaws in the order of the fields. -/
abbrev Flaws := List Flaw

def Flaws.message (flaws : Flaws) : String :=
  "; ".intercalate (flaws.map fun f => ".".intercalate f.field ++ ": " ++ f.fault.name)

/-- A value, or the flaws of what should have been one. -/
abbrev Checked (α : Type) := Except Flaws α

namespace Checked

/-- Check two parts and collect the flaws of both. -/
def both {α β : Type} (a : Checked α) (b : Checked β) : Checked (α × β) :=
  match a, b with
  | .ok x, .ok y => .ok (x, y)
  | .ok _, .error f => .error f
  | .error e, .ok _ => .error e
  | .error e, .error f => .error (e ++ f)

def under {α : Type} (name : String) (a : Checked α) : Checked α :=
  a.mapError fun flaws => flaws.map (·.under name)

end Checked

def checkOrdinal (i : Int) : Checked Ordinal :=
  match Ordinal.ofInt? i with
  | some o => .ok o
  | none => .error [⟨[], .belowMinimum⟩]

def checkOffset (i : Int) : Checked Nat :=
  if 0 ≤ i then .ok i.toNat else .error [⟨[], .belowMinimum⟩]

def Fix.check (offset : Int) (text : String) (line column : Int) : Checked Fix :=
  (Checked.both ((checkOffset offset).under "offset")
    (.both ((checkOrdinal line).under "line") ((checkOrdinal column).under "column"))).map
    fun (offset, line, column) => ⟨offset, text, line, column⟩

def Location.check (path : Path) (line column endLine endColumn : Int)
    (snippet : Option String) : Checked Location :=
  (Checked.both ((checkOrdinal line).under "line")
    (.both ((checkOrdinal column).under "column")
      (.both ((checkOrdinal endLine).under "end_line")
        ((checkOrdinal endColumn).under "end_column")))).map
    fun (line, column, endLine, endColumn) =>
      ⟨path, line, column, some endLine, some endColumn, snippet⟩

end AsyncActions
