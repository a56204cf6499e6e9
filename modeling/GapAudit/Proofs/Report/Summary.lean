import GapAudit.Proofs.Report.Linear
import GapAudit.Proofs.Text.ByteOrder

/-!
# What the document and the summary say

Both renderings of a report show its findings group by group. The summary for a terminal has no
marks at its headings: its paragraphs, the stretches between empty lines, tell which lines are about
the findings (`terminalLines_eq_intercalate`). The main statement is that the lines of either
rendering name every finding once, the worst first, and that the document says besides what the
report has of groups, analyzers and recommendations (`shows`).
-/

namespace GapAudit

namespace Terminal

/-- The stretches of lines between empty lines. -/
def paragraphs (lines : List String) : List (List String) :=
  lines.splitOn ""

/-- The paragraphs of the groups: four paragraphs, the analyzers and the title of the issues stand
before them, the recommendations and the last line behind them. -/
def groupParagraphs (lines : List String) : List (List String) :=
  ((paragraphs lines).drop 6).dropLast.dropLast

/-- The lines of a group with tags: those below the category that are not set in as files are. -/
def taggedLines (paragraph : List String) : List String :=
  paragraph.tail.filter fun line => !begins "             " line

/-- The tagged line of a finding without colour. -/
def taggedLine (finding : Finding) : String :=
  s!"    {severityTag false finding.2.severity} {finding.2.description}"

/-- The lines of a group without the empty line at its end. -/
def groupParagraph (group : FindingGroup) : List String :=
  ("  " ++ group.category) :: group.findings.flatMap (findingLines false)

/-- Of the lines of a finding only the first is not set in as files are. -/
lemma filter_findingLines (finding : Finding) :
    ((findingLines false finding).filter fun line => !begins "             " line) =
      [taggedLine finding] := by
  have hfiles : (fileLines false finding.2.affectedFiles).filter
      (fun line => !begins "             " line) = [] := by
    rw [List.filter_eq_nil_iff]
    cases finding.2.affectedFiles with
    | nil => simp [fileLines]
    | cons file more =>
      cases more <;>
        simp [fileLines, begins, Text.startsWith, Text.after?, toString]
  have htagged : (!begins "             " (taggedLine finding)) = true := by
    cases hseverity : finding.2.severity <;>
      simp [begins, taggedLine, hseverity, severityTag, paint_false, Text.startsWith, Text.after?,
        toString]
  have hlines : findingLines false finding =
      taggedLine finding :: fileLines false finding.2.affectedFiles := rfl
  rw [hlines, List.filter_cons, if_pos htagged, hfiles]

lemma taggedLines_groupParagraph (group : FindingGroup) :
    taggedLines (groupParagraph group) = group.findings.map taggedLine := by
  rw [taggedLines, groupParagraph, List.tail_cons, List.filter_flatMap, List.map_eq_flatMap]
  exact List.flatMap_congr fun finding _ => filter_findingLines finding

lemma intercalate_append {pieces more : List (List String)} (hmore : more ≠ []) :
    [""].intercalate (pieces ++ more) =
      pieces.flatMap (· ++ [""]) ++ [""].intercalate more := by
  induction pieces with
  | nil => rfl
  | cons piece pieces ih =>
    rw [List.cons_append, List.intercalate_cons_of_ne_nil (by simp [hmore]), ih]
    simp

/-- The paragraphs of the issues, none where there are none. -/
def issueParagraphs (total : Nat) (groups : List FindingGroup) : List (List String) :=
  if groups.isEmpty then [] else [s!"  Issues ({total}):"] :: groups.map groupParagraph

lemma flatMap_issueParagraphs (total : Nat) (groups : List FindingGroup) :
    (issueParagraphs total groups).flatMap (· ++ [""]) = issueLines false total groups := by
  unfold issueParagraphs issueLines
  split
  · rfl
  · rw [List.flatMap_cons, List.flatMap_map]
    rfl

variable {α : Type} [Arithmetic α]

/-- The paragraphs above the issues. -/
def openingParagraphs (report : Report α) (threshold : α) : List (List String) :=
  let verdict := verdictText false (report.passes threshold) "✓ PASS" "✗ FAIL"
  let score := report.overallScore
  [[], [s!"  {programName} v{programVersion}"], ["  Project: " ++ report.projectPath],
    [s!"  {verdict}  Completion: {scoreText false score}  {Score.label score}"],
    "  Analyzers:" ::
      report.analyzerResults.entries.map fun (name, result) => analyzerLine false name result]

/-- The paragraphs below the issues. -/
def closingParagraphs (report : Report α) (threshold : α) : List (List String) :=
  let verdict := verdictText false (report.passes threshold) "PASSED" "FAILED"
  ["  Recommendations:" :: report.recommendations.map ("    " ++ ·),
    ["  " ++ s!"Threshold: {Arithmetic.text 0 threshold}" ++
      s!"  Estimated work: {report.summary.estimatedWork}  " ++ verdict]]

theorem terminalLines_eq_intercalate (report : Report α) (threshold : α) :
    report.terminalLines threshold false =
      [""].intercalate (openingParagraphs report threshold ++
        issueParagraphs report.summary.totalGaps report.groups ++
        closingParagraphs report threshold) := by
  have hclosing : closingParagraphs report threshold ≠ [] := List.cons_ne_nil _ _
  rw [intercalate_append hclosing, List.flatMap_append, flatMap_issueParagraphs]
  simp [Report.terminalLines, openingParagraphs, closingParagraphs, paint_false]

/-- A line that is set in. -/
def IsSetIn (line : String) : Prop :=
  begins "  " line = true

lemma empty_notMem_of_isSetIn {lines : List String} (h : lines.Forall IsSetIn) : "" ∉ lines := by
  intro hmem
  cases List.forall_iff_forall_mem.mp h "" hmem

lemma isSetIn_findingLines (finding : Finding) : (findingLines false finding).Forall IsSetIn := by
  have hfiles : (fileLines false finding.2.affectedFiles).Forall IsSetIn := by
    cases finding.2.affectedFiles with
    | nil => trivial
    | cons file more =>
      cases more <;> simp [fileLines, IsSetIn, begins, Text.startsWith, Text.after?, toString]
  rw [findingLines, List.forall_cons]
  refine ⟨?_, hfiles⟩
  simp [IsSetIn, begins, Text.startsWith, Text.after?, toString]

lemma isSetIn_groupParagraph (group : FindingGroup) :
    (groupParagraph group).Forall IsSetIn := by
  rw [groupParagraph, List.forall_cons, forall_flatMap]
  refine ⟨?_, fun finding _ => isSetIn_findingLines finding⟩
  simp [IsSetIn, begins, Text.startsWith, Text.after?]

lemma isSetIn_issueParagraphs (total : Nat) (groups : List FindingGroup) :
    ∀ paragraph ∈ issueParagraphs total groups, paragraph.Forall IsSetIn := by
  intro paragraph hmem
  unfold issueParagraphs at hmem
  split at hmem
  · cases hmem
  · rcases List.mem_cons.mp hmem with rfl | hgroup
    · simp [IsSetIn, begins, Text.startsWith, Text.after?, toString]
    · obtain ⟨group, _, rfl⟩ := List.mem_map.mp hgroup
      exact isSetIn_groupParagraph group

lemma isSetIn_openingParagraphs (report : Report α) (threshold : α) :
    ∀ paragraph ∈ openingParagraphs report threshold, paragraph.Forall IsSetIn := by
  simp [openingParagraphs, analyzerLine, IsSetIn, begins, Text.startsWith, Text.after?, toString]

lemma isSetIn_closingParagraphs (report : Report α) (threshold : α) :
    ∀ paragraph ∈ closingParagraphs report threshold, paragraph.Forall IsSetIn := by
  simp [closingParagraphs, IsSetIn, begins, Text.startsWith, Text.after?, toString]

/-- The paragraphs of the groups are found between the others. -/
theorem groupParagraphs_terminalLines (report : Report α) (threshold : α) :
    groupParagraphs (report.terminalLines threshold false) =
      report.groups.map groupParagraph := by
  let issues := issueParagraphs report.summary.totalGaps report.groups
  have hempty : ∀ paragraph ∈ openingParagraphs report threshold ++ issues ++
      closingParagraphs report threshold, "" ∉ paragraph := by
    intro paragraph hmem
    apply empty_notMem_of_isSetIn
    rcases List.mem_append.mp hmem with hfront | hclosing
    · rcases List.mem_append.mp hfront with hopening | hissue
      · exact isSetIn_openingParagraphs report threshold paragraph hopening
      · exact isSetIn_issueParagraphs _ _ paragraph hissue
    · exact isSetIn_closingParagraphs report threshold paragraph hclosing
  have hparagraphs : paragraphs (report.terminalLines threshold false) =
      openingParagraphs report threshold ++ issues ++ closingParagraphs report threshold := by
    rw [paragraphs, terminalLines_eq_intercalate]
    exact List.splitOn_intercalate "" hempty (by simp [closingParagraphs])
  rw [groupParagraphs, hparagraphs]
  by_cases hnone : report.groups.isEmpty
  · have hissues : issues = [] := if_pos hnone
    rw [hissues, List.isEmpty_iff.mp hnone]
    rfl
  · have hissues : issues = [s!"  Issues ({report.summary.totalGaps}):"] ::
        report.groups.map groupParagraph := if_neg hnone
    have hdrop : (openingParagraphs report threshold ++ issues ++
        closingParagraphs report threshold).drop 6 =
        report.groups.map groupParagraph ++ closingParagraphs report threshold := by
      rw [hissues]
      rfl
    rw [hdrop]
    simp [closingParagraphs]

end Terminal

open FindingGroup Markdown Terminal Text

/-- What the lines of a document and of a summary for a terminal show of a report. -/
structure Report.Shown (report : Report Float) (document summary : List String) : Prop where
  once : (report.groups.flatMap (·.findings)).Perm report.findings
  worstFirst : ∀ group ∈ report.groups, group.findings.Pairwise fun a b =>
    b.2.severity.rank ≤ a.2.severity.rank
  worstGroupFirst : report.groups.Pairwise fun a b =>
    (worst b.findings).rank ≤ (worst a.findings).rank
  findings : marked "#### " document = (report.groups.flatMap (·.findings)).map findingHeading
  groups : marked "### " document = report.groups.map groupHeading
  total : (report.groups.map (·.findings.length)).sum = report.findings.length
  clean : "No issues found." ∈ sectionOf "## Issues by Category" document ↔ report.findings = []
  recommendations : sectionOf "## Recommendations" document =
    "" :: report.recommendations.mapIdx fun i item => s!"{i + 1}. {item}"
  scores : sectionOf "## Analyzer Scores" document =
    ["", "| Analyzer | Score | Status | Issues | Time (ms) |",
      "|----------|-------|--------|--------|-----------|"] ++
    (report.analyzerResults.entries.map fun (name, result) => scoreRow name result) ++ [""]
  analyzers : report.analyzerResults.keys.Pairwise fun a b => bytes a < bytes b
  tagged : (groupParagraphs summary).flatMap taggedLines =
    (report.groups.flatMap (·.findings)).map taggedLine

/-- The document and the summary of a report whose texts have no line feeds show every finding
once, the worst first, in the same order. -/
theorem Report.shown_by_lines (report : Report Float) (threshold : Float) (h : report.IsLinear) :
    report.Shown (endedLines report.markdown)
      (endedLines (report.terminalText threshold false)) := by
  have hdocument : endedLines report.markdown = Markdown.lines report :=
    endedLines_ofLines (isOneLine_lines h)
  have hsummary : endedLines (report.terminalText threshold false) =
      report.terminalLines threshold false :=
    endedLines_ofLines (isOneLine_terminalLines h threshold)
  rw [hdocument, hsummary]
  have hperm := report.groups_findings_perm
  constructor
  case once => exact hperm
  case worstFirst =>
    intro group hgroup
    rw [(mem_byName (report.groups_perm.mem_iff.mp hgroup)).1]
    have hsorted := List.pairwise_mergeSort mayPrecede_trans mayPrecede_total
      (ofCategory group.category report.findings)
    exact hsorted.imp fun hab => by simpa [mayPrecede] using hab
  case worstGroupFirst =>
    have hsorted := List.pairwise_mergeSort groupMayPrecede_trans groupMayPrecede_total
      (byName report.findings)
    exact hsorted.imp fun hab => by simpa [groupMayPrecede] using hab
  case findings => exact marked_findings report
  case groups => exact marked_groups report
  case total =>
    have hlength := hperm.length_eq
    rwa [List.length_flatMap] at hlength
  case clean => rw [sectionOf_issues, mem_issueBody_iff, report.groups_eq_nil_iff]
  case recommendations => exact sectionOf_recommendations report
  case scores => exact sectionOf_scores report
  case analyzers =>
    have hkeys : report.analyzerResults.keys.Pairwise (· < ·) :=
      List.pairwise_map.mpr report.analyzerResults.sorted
    exact hkeys.imp fun hab => bytes_lt_of_lt hab
  case tagged =>
    rw [groupParagraphs_terminalLines, List.flatMap_map, List.map_flatMap]
    exact List.flatMap_congr fun group _ => taggedLines_groupParagraph group

/-- A report whose texts look like the lines around them. -/
def mimicReport : Report Float where
  timestamp := ⟨0, 0⟩
  projectPath := "## Recommendations"
  overallScore := 0
  analyzerResults := ⟨[
    ("components", { (.blank "components" : AnalyzerResult Float) with
      gaps := [⟨"c1", .low, "Recommendations:", "# one", "No issues found.", ["#### a"], none⟩] }),
    ("features", { (.blank "features" : AnalyzerResult Float) with
      gaps := [⟨"f1", .critical, "issues", "### Issues (7)", "## Summary", [], some .high⟩,
        ⟨"f2", .high, "Recommendations:", "         wide", "", ["a", "b"], none⟩] })], by decide⟩
  summary := ⟨3, ⟨1, 1, 0, 1⟩, 2, 0, "#### none"⟩
  recommendations := ["## Issues by Category", "", "    CRIT   all"]

theorem Report.shown_by_lines_mimic : mimicReport.IsLinear ∧
    mimicReport.Shown (endedLines mimicReport.markdown)
      (endedLines (mimicReport.terminalText 80 false)) :=
  ⟨by decide, mimicReport.shown_by_lines 80 (by decide)⟩

end GapAudit
