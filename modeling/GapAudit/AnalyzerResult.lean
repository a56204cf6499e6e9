import GapAudit.Histogram
import GapAudit.Metadata
import GapAudit.Score

/-!
The outcome of one analyzer: a score, gaps and metadata.
-/

namespace GapAudit

/-- The outcome of one analyzer run. The time is in milliseconds. -/
structure AnalyzerResult (α : Type) where
  analyzerName : String
  score : α
  executionTime : Nat := 0
  gaps : List Gap := []
  metadata : Keyed MetadataValue := Keyed.empty

namespace AnalyzerResult

variable {α : Type} [Arithmetic α]

/-- The metadata key that marks a result which stands in for a failure. -/
def failedKey : String := "failed"

/-- A result without findings and with score 0. -/
def blank (name : String) : AnalyzerResult α where
  analyzerName := name
  score := 0

/-- The result with another score, brought into the range of scores. -/
def withScore (r : AnalyzerResult α) (score : α) : AnalyzerResult α :=
  { r with score := Score.clamp score }

omit [Arithmetic α] in
def withGaps (r : AnalyzerResult α) (gaps : List Gap) : AnalyzerResult α :=
  { r with gaps }

omit [Arithmetic α] in
def withMeta (r : AnalyzerResult α) (key : String) (value : MetadataValue) : AnalyzerResult α :=
  { r with metadata := r.metadata.insert key value }

omit [Arithmetic α] in
/-- The result with metadata values put under their keys, one after the other. -/
def withEntries (r : AnalyzerResult α) (entries : List (String × MetadataValue)) :
    AnalyzerResult α :=
  entries.foldl (fun r entry => r.withMeta entry.1 entry.2) r

omit [Arithmetic α] in
/-- Whether the result stands in for a failure; only the truth value itself says so. -/
def isFailed (r : AnalyzerResult α) : Bool :=
  match r.metadata.find? failedKey with
  | some (.bool b) => b
  | _ => false

omit [Arithmetic α] in
def countOf (r : AnalyzerResult α) (severity : Severity) : Nat :=
  (r.gaps.filter fun gap => gap.severity = severity).length

/-- The result that stands in for an analyzer that ended in an error or a crash. -/
def ofFailure (name message : String) : AnalyzerResult α :=
  ((((blank name).withScore 0).withGaps [{
    id := s!"{name}-failure"
    severity := .critical
    category := "analyzer"
    description := s!"Analyzer '{name}' failed: {message}"
    recommendation :=
      s!"Investigate why the {name} analyzer failed ({message}) and rerun the verification"
    estimatedEffort := some .medium }]).withMeta failedKey (.bool true)).withMeta
      "error" (.text message)

end AnalyzerResult

end GapAudit
