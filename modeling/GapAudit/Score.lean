import GapAudit.Arithmetic
import GapAudit.Histogram

/-!
Scores between 0 and 100, the labels given to them, and the estimate of the remaining work.
-/

namespace GapAudit

open Arithmetic

variable {α : Type} [Arithmetic α]

namespace Score

/-- A number as a score: at least 0 and at most 100, and 0 where it is not a number. -/
def clamp (x : α) : α :=
  if !le x x then 0
  else if lt x 0 then 0
  else if lt 100 x then 100
  else x

/-- The nearest multiple of one hundredth; a half goes away from zero. -/
def roundHundredths (x : α) : α :=
  round (x * 100) / 100

/-- The mean of scores to the hundredth, 0 where there are none. -/
def mean (scores : List α) : α :=
  if scores.isEmpty then 0
  else roundHundredths (sum scores / ofNat scores.length)

/-- A deduction that is never negative and never above its cap. -/
def capped (deduction cap : α) : α :=
  greater (lesser deduction cap) 0

def label (score : α) : String :=
  if lt score 50 then "Critical"
  else if lt score 70 then "Needs Work"
  else if lt score 80 then "Nearly Complete"
  else "Production Ready"

end Score

/-- The work that one gap of each severity stands for. -/
structure WorkWeights (α : Type) where
  critical : α
  high : α
  medium : α
  low : α
  deriving Repr

namespace WorkWeights

/-- The usual weights: each severity counts for twice the one below it. -/
def standard : WorkWeights α where
  critical := 4
  high := 2
  medium := 1
  low := 1 / 2

def weight (w : WorkWeights α) : Severity → α
  | .critical => w.critical
  | .high => w.high
  | .medium => w.medium
  | .low => w.low

/-- The weighted sum over a histogram, from the worst severity down. -/
def total (w : WorkWeights α) (h : Histogram) : α :=
  sum (Severity.all.map fun severity => ofNat (h.count severity) * w.weight severity)

end WorkWeights

/-- How long the remaining work takes, the shortest first. -/
inductive WorkEstimate where
  | nothing
  | days
  | severalDays
  | weeks
  | severalWeeks
  | months
  deriving DecidableEq, Repr

namespace WorkEstimate

def label : WorkEstimate → String
  | .nothing => "No work remaining"
  | .days => "1-2 days"
  | .severalDays => "3-5 days"
  | .weeks => "1-2 weeks"
  | .severalWeeks => "2-4 weeks"
  | .months => "1+ months"

/-- The estimate for a weighted total; each tier ends just below its limit. -/
def ofTotal (total : α) : WorkEstimate :=
  if le total 0 then .nothing
  else if lt total 5 then .days
  else if lt total 15 then .severalDays
  else if lt total 30 then .weeks
  else if lt total 60 then .severalWeeks
  else .months

def ofHistogram (h : Histogram) (w : WorkWeights α) : WorkEstimate :=
  .ofTotal (w.total h)

end WorkEstimate

end GapAudit
