import GapAudit.Gap

/-!
Counts of gaps by severity.
-/

namespace GapAudit

/-- How many gaps there are of each severity. -/
structure Histogram where
  critical : Nat := 0
  high : Nat := 0
  medium : Nat := 0
  low : Nat := 0
  deriving DecidableEq, Repr

namespace Histogram

def count (h : Histogram) : Severity → Nat
  | .critical => h.critical
  | .high => h.high
  | .medium => h.medium
  | .low => h.low

def record (h : Histogram) : Severity → Histogram
  | .critical => { h with critical := h.critical + 1 }
  | .high => { h with high := h.high + 1 }
  | .medium => { h with medium := h.medium + 1 }
  | .low => { h with low := h.low + 1 }

def total (h : Histogram) : Nat :=
  h.critical + h.high + h.medium + h.low

def ofGaps (gaps : List Gap) : Histogram :=
  gaps.foldl (fun h gap => h.record gap.severity) {}

theorem count_record (h : Histogram) (recorded asked : Severity) :
    (h.record recorded).count asked = h.count asked + if recorded = asked then 1 else 0 := by
  cases recorded <;> cases asked <;> rfl

theorem total_record (h : Histogram) (severity : Severity) :
    (h.record severity).total = h.total + 1 := by
  cases severity <;> simp [record, total] <;> omega

theorem ext_count {h h' : Histogram} (same : ∀ severity, h.count severity = h'.count severity) :
    h = h' := by
  have critical := same .critical
  have high := same .high
  have medium := same .medium
  have low := same .low
  simp only [count] at critical high medium low
  cases h
  simp_all

theorem count_foldl_record (gaps : List Gap) (h : Histogram) (severity : Severity) :
    (gaps.foldl (fun h gap => h.record gap.severity) h).count severity =
      h.count severity + gaps.countP fun gap => gap.severity = severity := by
  induction gaps generalizing h with
  | nil => simp
  | cons gap rest ih =>
    rw [List.foldl_cons, ih, count_record, List.countP_cons]
    simp only [decide_eq_true_eq]
    omega

/-- Every count of a histogram is the number of gaps of that severity. -/
theorem count_ofGaps (gaps : List Gap) (severity : Severity) :
    (ofGaps gaps).count severity = gaps.countP fun gap => gap.severity = severity := by
  rw [ofGaps, count_foldl_record]
  cases severity <;> simp [count]

theorem total_foldl_record (gaps : List Gap) (h : Histogram) :
    (gaps.foldl (fun h gap => h.record gap.severity) h).total = h.total + gaps.length := by
  induction gaps generalizing h with
  | nil => rfl
  | cons gap rest ih =>
    rw [List.foldl_cons, ih, total_record, List.length_cons]
    omega

theorem total_ofGaps (gaps : List Gap) : (ofGaps gaps).total = gaps.length := by
  rw [ofGaps, total_foldl_record]
  simp [total]

end Histogram

end GapAudit
