import GapAudit.Text.Case

/-!
How urgent a gap is.
-/

namespace GapAudit

/-- The urgency of a gap, the least urgent first. -/
inductive Severity where
  | low
  | medium
  | high
  | critical
  deriving DecidableEq, Repr

namespace Severity

/-- All severities, the worst first. -/
def all : List Severity :=
  [.critical, .high, .medium, .low]

/-- The place in the order, counted from the least urgent. -/
def rank : Severity → Nat
  | .low => 0
  | .medium => 1
  | .high => 2
  | .critical => 3

def order (a b : Severity) : Ordering :=
  compare a.rank b.rank

def worse (a b : Severity) : Severity :=
  if a.rank < b.rank then b else a

def name : Severity → String
  | .low => "low"
  | .medium => "medium"
  | .high => "high"
  | .critical => "critical"

def badge : Severity → String
  | .low => "🟢 LOW"
  | .medium => "🟡 MEDIUM"
  | .high => "🟠 HIGH"
  | .critical => "🔴 CRITICAL"

def ofName? (name : String) : Option Severity :=
  all.find? fun severity => severity.name == name

/-- The severity that a text names in any mixture of cases. -/
def parse? (text : String) : Option Severity :=
  ofName? (Text.lowercase text)

def unknownMessage (text : String) : String :=
  s!"unknown severity: {text}"

end Severity

/-- The size of the work that closes a gap. -/
inductive Effort where
  | low
  | medium
  | high
  deriving DecidableEq, Repr

namespace Effort

def all : List Effort :=
  [.low, .medium, .high]

def name : Effort → String
  | .low => "low"
  | .medium => "medium"
  | .high => "high"

def label : Effort → String
  | .low => "Low"
  | .medium => "Medium"
  | .high => "High"

def ofName? (name : String) : Option Effort :=
  all.find? fun effort => effort.name == name

end Effort

end GapAudit
