import GapAudit.Severity

/-!
A gap: one discovered shortcoming of a project.
-/

namespace GapAudit

/-- One discovered shortcoming. Its identifier is unique within the output of one analyzer. -/
structure Gap where
  id : String
  severity : Severity
  category : String
  description : String
  recommendation : String
  affectedFiles : List String := []
  estimatedEffort : Option Effort := none
  deriving DecidableEq, Repr

end GapAudit
