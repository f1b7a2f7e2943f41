/-!
# What is said on the way

Each part of the program returns the records that it would log, in order.
-/

namespace AsyncActions

inductive Level where
  | debug
  | info
  | warning
  | error
  deriving DecidableEq, Repr

namespace Level

def name : Level → String
  | debug => "DEBUG"
  | info => "INFO"
  | warning => "WARNING"
  | error => "ERROR"

def rank : Level → Nat
  | debug => 0
  | info => 1
  | warning => 2
  | error => 3

end Level

/-- A record: how grave it is, which part of the program speaks, and what it says. -/
structure Record where
  level : Level
  speaker : String
  message : String
  deriving DecidableEq, Repr

abbrev Log := List Record

/-- The records that are at least so grave. -/
def Log.from (log : Log) (level : Level) : Log := log.filter fun r => level.rank ≤ r.level.rank

end AsyncActions
