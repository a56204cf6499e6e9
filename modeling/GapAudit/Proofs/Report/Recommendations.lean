import Mathlib
import GapAudit.Proofs.Text.Word
import GapAudit.Report.Recommendations

/-!
# Recommendations, kind by kind

Lines of different kinds begin differently, so that the kind of a line can be told from its text
(`startsWith_beginning`). The lines of each kind are found again in the list of all recommendations
(`linesOf_ofResults`), and the list is made of them (`ofResults_eq_linesOf`).
-/

namespace GapAudit.Recommendations

variable {α : Type} [Arithmetic α]

/-- What a line of recommendations is about. -/
inductive Kind where
  | criticalCount
  | quoted
  | highCount
  | improve
  | closing
  deriving DecidableEq

namespace Kind

def all : List Kind :=
  [.criticalCount, .quoted, .highCount, .improve, .closing]

/-- How the lines of a kind begin. -/
def beginning : Kind → String
  | .criticalCount => "Address "
  | .quoted => "  - "
  | .highCount => "Resolve "
  | .improve => "Improve "
  | .closing => "Overall completion is "

end Kind

/-- The lines that begin as those of a kind do. -/
def linesOf (kind : Kind) (lines : List String) : List String :=
  lines.filter fun line => Text.startsWith kind.beginning.toList line.toList

def AllOf (kind : Kind) (lines : List String) : Prop :=
  ∀ line ∈ lines, ∃ rest, line = kind.beginning ++ rest

lemma startsWith_beginning (kind other : Kind) (rest : String) :
    Text.startsWith kind.beginning.toList (other.beginning ++ rest).toList =
      decide (kind = other) := by
  rw [String.toList_append]
  by_cases h : kind = other
  · subst h
    rw [decide_eq_true rfl, Text.startsWith, Text.after?_append]
    rfl
  · rw [decide_eq_false h]
    cases kind <;> cases other <;> first | exact absurd rfl h | rfl

lemma linesOf_append (kind : Kind) (xs ys : List String) :
    linesOf kind (xs ++ ys) = linesOf kind xs ++ linesOf kind ys :=
  List.filter_append ..

lemma linesOf_of_allOf {other : Kind} {lines : List String} (h : AllOf other lines) (kind : Kind) :
    linesOf kind lines = if kind = other then lines else [] := by
  have hstarts : ∀ line ∈ lines,
      Text.startsWith kind.beginning.toList line.toList = decide (kind = other) := by
    intro line hmem
    obtain ⟨rest, rfl⟩ := h line hmem
    exact startsWith_beginning kind other rest
  unfold linesOf
  rw [List.filter_congr hstarts]
  by_cases hkind : kind = other
  · simp [hkind]
  · simp [hkind]

def criticalCountLines (count : Nat) : List String :=
  if count = 0 then [] else [s!"Address {count} critical issue(s) immediately"]

def quotedLines (count : Nat) (results : List (AnalyzerResult α)) : List String :=
  if count = 0 then []
  else ((criticalGaps results).take quotedGaps).map fun gap => s!"  - {gap.recommendation}"

/-- The lines of a kind for results with the given counts of gaps. -/
def linesFor (results : List (AnalyzerResult α)) (counts : Histogram) (overall threshold : α) :
    Kind → List String
  | .criticalCount => criticalCountLines counts.critical
  | .quoted => quotedLines counts.critical results
  | .highCount => highLines counts.high
  | .improve => improveLines results
  | .closing => [closingLine overall threshold]

lemma allOf_unless {kind : Kind} {lines : List String} (h : AllOf kind lines) (count : Nat) :
    AllOf kind (if count = 0 then [] else lines) := by
  intro line hmem
  split at hmem
  · cases hmem
  · exact h line hmem

lemma allOf_linesFor (results : List (AnalyzerResult α)) (counts : Histogram)
    (overall threshold : α) (kind : Kind) :
    AllOf kind (linesFor results counts overall threshold kind) := by
  cases kind with
  | criticalCount =>
    apply allOf_unless
    intro line hmem
    rw [List.mem_singleton.mp hmem]
    exact ⟨_, String.append_assoc ..⟩
  | quoted =>
    apply allOf_unless
    intro line hmem
    obtain ⟨gap, -, rfl⟩ := List.mem_map.mp hmem
    exact ⟨_, rfl⟩
  | highCount =>
    apply allOf_unless
    intro line hmem
    rw [List.mem_singleton.mp hmem]
    exact ⟨_, String.append_assoc ..⟩
  | improve =>
    intro line hmem
    obtain ⟨result, -, rfl⟩ := List.mem_map.mp hmem
    simp only [String.append_assoc]
    exact ⟨_, rfl⟩
  | closing =>
    intro line hmem
    rw [List.mem_singleton.mp hmem]
    unfold closingLine
    simp only [String.append_assoc]
    split
    · exact ⟨_, rfl⟩
    · exact ⟨_, rfl⟩

lemma ofResults_eq_linesFor (results : List (AnalyzerResult α)) (counts : Histogram)
    (overall threshold : α) :
    ofResults results counts overall threshold =
      Kind.all.flatMap (linesFor results counts overall threshold) := by
  have hcritical : criticalLines counts.critical results =
      criticalCountLines counts.critical ++ quotedLines counts.critical results := by
    unfold criticalLines criticalCountLines quotedLines
    split <;> rfl
  unfold ofResults
  rw [hcritical]
  simp [Kind.all, linesFor]

/-- The lines that begin as those of a kind do are the lines of the kind. -/
theorem linesOf_ofResults (results : List (AnalyzerResult α)) (counts : Histogram)
    (overall threshold : α) (kind : Kind) :
    linesOf kind (ofResults results counts overall threshold) =
      linesFor results counts overall threshold kind := by
  have hlines (other : Kind) : linesOf kind (linesFor results counts overall threshold other) =
      if kind = other then linesFor results counts overall threshold other else [] :=
    linesOf_of_allOf (allOf_linesFor results counts overall threshold other) kind
  rw [ofResults_eq_linesFor]
  simp only [Kind.all, List.flatMap_cons, List.flatMap_nil, linesOf_append, hlines]
  cases kind <;> simp [linesOf]

end GapAudit.Recommendations
