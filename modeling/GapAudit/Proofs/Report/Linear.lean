import GapAudit.Proofs.Report.Document
import GapAudit.Proofs.Report.Groups
import GapAudit.Proofs.Text.OneLine
import GapAudit.Report.Terminal

/-!
# Reports without line feeds

The texts of a report are put into lines as they are. Where none of them has a line feed, neither
has a line of the document (`Markdown.isOneLine_lines`) or of the summary for a terminal
(`Terminal.isOneLine_terminalLines`), so that both are read back line by line.
-/

namespace GapAudit

open Text

/-- A gap whose texts are texts of one line. -/
structure Gap.IsLinear (gap : Gap) : Prop where
  category : IsOneLine gap.category
  description : IsOneLine gap.description
  recommendation : IsOneLine gap.recommendation
  affectedFiles : ∀ file ∈ gap.affectedFiles, IsOneLine file

instance (gap : Gap) : Decidable gap.IsLinear :=
  decidable_of_iff (IsOneLine gap.category ∧ IsOneLine gap.description ∧
    IsOneLine gap.recommendation ∧ ∀ file ∈ gap.affectedFiles, IsOneLine file)
    ⟨fun ⟨h₁, h₂, h₃, h₄⟩ => ⟨h₁, h₂, h₃, h₄⟩, fun ⟨h₁, h₂, h₃, h₄⟩ => ⟨h₁, h₂, h₃, h₄⟩⟩

/-- A report whose texts are texts of one line. -/
structure Report.IsLinear {α : Type} (report : Report α) : Prop where
  projectPath : IsOneLine report.projectPath
  analyzers : ∀ name ∈ report.analyzerResults.keys, IsOneLine name
  gaps : ∀ finding ∈ report.findings, finding.2.IsLinear
  estimatedWork : IsOneLine report.summary.estimatedWork
  recommendations : ∀ item ∈ report.recommendations, IsOneLine item

instance {α : Type} (report : Report α) : Decidable report.IsLinear :=
  decidable_of_iff (IsOneLine report.projectPath ∧
    (∀ name ∈ report.analyzerResults.keys, IsOneLine name) ∧
    (∀ finding ∈ report.findings, finding.2.IsLinear) ∧
    IsOneLine report.summary.estimatedWork ∧ ∀ item ∈ report.recommendations, IsOneLine item)
    ⟨fun ⟨h₁, h₂, h₃, h₄, h₅⟩ => ⟨h₁, h₂, h₃, h₄, h₅⟩,
      fun ⟨h₁, h₂, h₃, h₄, h₅⟩ => ⟨h₁, h₂, h₃, h₄, h₅⟩⟩

lemma Report.mem_keys_of_mem_findings {α : Type} {report : Report α} {finding : Finding}
    (h : finding ∈ report.findings) : finding.1 ∈ report.analyzerResults.keys := by
  obtain ⟨⟨name, result⟩, hentry, hgap⟩ := List.mem_flatMap.mp h
  obtain ⟨gap, _, rfl⟩ := List.mem_map.mp hgap
  exact List.mem_map.mpr ⟨(name, result), hentry, rfl⟩

lemma Report.isOneLine_category {α : Type} {report : Report α} (h : report.IsLinear)
    {group : FindingGroup} (hgroup : group ∈ report.groups) : IsOneLine group.category := by
  obtain ⟨finding, hmem, hcategory⟩ := exists_finding_of_mem_groups hgroup
  rw [← hcategory]
  exact (h.gaps finding hmem).category

lemma Score.isOneLine_label (score : Float) : IsOneLine (Score.label score) := by
  unfold Score.label
  split
  · decide
  · split
    · decide
    · split <;> decide

lemma Severity.isOneLine_badge (severity : Severity) : IsOneLine severity.badge := by
  cases severity <;> decide

lemma Effort.isOneLine_label (effort : Effort) : IsOneLine effort.label := by
  cases effort <;> decide

namespace Markdown

lemma isOneLine_titleLines {report : Report Float} (h : report.IsLinear) :
    (titleLines report).Forall IsOneLine := by
  have hpath := h.projectPath
  have htime := report.timestamp.isOneLine_documentText
  simp +decide [titleLines, code, hpath, htime, toString]

lemma isOneLine_summaryLines {report : Report Float} (h : report.IsLinear) :
    (summaryLines report).Forall IsOneLine := by
  have hscore : IsOneLine (Arithmetic.text 2 report.overallScore) :=
    Decimal.isOneLine_fixed 2 report.overallScore
  have hlabel := Score.isOneLine_label report.overallScore
  have hwork := h.estimatedWork
  simp +decide [summaryLines, hscore, hlabel, hwork, Severity.isOneLine_badge, toString]

lemma isOneLine_scoreRow {name : String} (hname : IsOneLine name)
    (result : AnalyzerResult Float) : IsOneLine (scoreRow name result) := by
  have hscore : IsOneLine (Arithmetic.text 1 result.score) :=
    Decimal.isOneLine_fixed 1 result.score
  have hstatus : IsOneLine (statusLabel result) := by
    unfold statusLabel
    split
    · decide
    · exact Score.isOneLine_label result.score
  simp +decide [scoreRow, hname, hscore, hstatus, toString]

lemma isOneLine_scoreLines {report : Report Float} (h : report.IsLinear) :
    (scoreLines report).Forall IsOneLine := by
  have hrow : ∀ name result, (name, result) ∈ report.analyzerResults.entries →
      IsOneLine (scoreRow name result) := by
    intro name result hentry
    exact isOneLine_scoreRow (h.analyzers name (List.mem_map_of_mem hentry)) result
  simpa +decide [scoreLines] using hrow

lemma isOneLine_findingLines {finding : Finding} (hname : IsOneLine finding.1)
    (hgap : finding.2.IsLinear) : (findingLines finding).Forall IsOneLine := by
  have hfiles : (fileLines finding.2).Forall IsOneLine := by
    unfold fileLines
    split
    · simp
    · have hnames : ∀ file ∈ finding.2.affectedFiles.map code, IsOneLine file := by
        have hfile := hgap.affectedFiles
        simpa +decide [code] using hfile
      have hlist : IsOneLine (", ".intercalate (finding.2.affectedFiles.map code)) :=
        isOneLine_intercalate (by decide) hnames
      simp +decide [hlist]
  have hdescription := hgap.description
  have hrecommendation := hgap.recommendation
  simp +decide [findingLines, hfiles, hname, hdescription, hrecommendation,
    Severity.isOneLine_badge, Effort.isOneLine_label, toString]

lemma isOneLine_groupLines {report : Report Float} (h : report.IsLinear) {group : FindingGroup}
    (hgroup : group ∈ report.groups) : (groupLines group).Forall IsOneLine := by
  have hfinding : ∀ finding ∈ group.findings, (findingLines finding).Forall IsOneLine := by
    intro finding hfinding
    have hreport := Report.mem_findings_of_mem_group hgroup hfinding
    exact isOneLine_findingLines (h.analyzers _ (Report.mem_keys_of_mem_findings hreport))
      (h.gaps finding hreport)
  have htitle := isOneLine_capitalize (Report.isOneLine_category h hgroup)
  rw [groupLines, List.forall_append, forall_flatMap]
  refine ⟨?_, hfinding⟩
  simp +decide [htitle, toString]

lemma isOneLine_recommendationLines {report : Report Float} (h : report.IsLinear) :
    (recommendationLines report).Forall IsOneLine := by
  rw [recommendationLines, List.forall_append, numbered_eq_mapIdx]
  refine ⟨by decide, List.forall_iff_forall_mem.mpr ?_⟩
  intro line hmem
  obtain ⟨i, hi, rfl⟩ := List.mem_mapIdx.mp hmem
  have hitem := h.recommendations _ (List.getElem_mem hi)
  simp +decide [hitem, toString]

theorem isOneLine_lines {report : Report Float} (h : report.IsLinear) :
    (lines report).Forall IsOneLine := by
  have hissues : (issueLines report.groups).Forall IsOneLine := by
    rw [issueLines, List.forall_append, List.forall_append, forall_flatMap]
    refine ⟨⟨by decide, ?_⟩, fun group hgroup => isOneLine_groupLines h hgroup⟩
    split <;> decide
  simp only [lines, List.forall_append]
  exact ⟨⟨⟨⟨isOneLine_titleLines h, isOneLine_summaryLines h⟩, isOneLine_scoreLines h⟩, hissues⟩,
    isOneLine_recommendationLines h⟩

end Markdown

namespace Terminal

open Ink

/-- Without colors a text is shown as it is. -/
lemma paint_false (inks : List Ink) (text : String) : paint false inks text = text := rfl

lemma isOneLine_verdictText (passed : Bool) {good bad : String} (hgood : IsOneLine good)
    (hbad : IsOneLine bad) : IsOneLine (verdictText false passed good bad) := by
  cases passed
  · exact hbad
  · exact hgood

lemma isOneLine_analyzerLine {name : String} (hname : IsOneLine name)
    (result : AnalyzerResult Float) : IsOneLine (analyzerLine false name result) := by
  have hscore : IsOneLine (if result.isFailed then "FAILED" else scoreText false result.score) := by
    split
    · decide
    · exact Decimal.isOneLine_fixed 1 result.score
  simp +decide [analyzerLine, padEnd, padStart, paint_false, hname, hscore, toString]

lemma isOneLine_severityTag (severity : Severity) : IsOneLine (severityTag false severity) := by
  cases severity <;> decide

lemma isOneLine_findingLines {finding : Finding} (hgap : finding.2.IsLinear) :
    (findingLines false finding).Forall IsOneLine := by
  have hfiles : (fileLines false finding.2.affectedFiles).Forall IsOneLine := by
    have hnames := hgap.affectedFiles
    cases hlist : finding.2.affectedFiles with
    | nil => trivial
    | cons file more =>
      rw [hlist] at hnames
      have hfile := hnames file List.mem_cons_self
      cases more with
      | nil => simp +decide [fileLines, paint_false, hfile]
      | cons next more => simp +decide [fileLines, paint_false, hfile, toString]
  have hdescription := hgap.description
  rw [findingLines, List.forall_cons]
  refine ⟨?_, hfiles⟩
  simp +decide [hdescription, isOneLine_severityTag, toString]

lemma isOneLine_groupLines {report : Report Float} (h : report.IsLinear) {group : FindingGroup}
    (hgroup : group ∈ report.groups) : (groupLines false group).Forall IsOneLine := by
  have hcategory := Report.isOneLine_category h hgroup
  have hfinding : ∀ finding ∈ group.findings, (findingLines false finding).Forall IsOneLine := by
    intro finding hmem
    exact isOneLine_findingLines (h.gaps finding (Report.mem_findings_of_mem_group hgroup hmem))
  rw [groupLines, List.forall_append, List.forall_append, forall_flatMap]
  refine ⟨⟨?_, hfinding⟩, by decide⟩
  simp +decide [paint_false, hcategory]

theorem isOneLine_terminalLines {report : Report Float} (h : report.IsLinear) (threshold : Float) :
    (report.terminalLines threshold false).Forall IsOneLine := by
  have hscore : ∀ places (score : Float), IsOneLine (Arithmetic.text places score) :=
    Decimal.isOneLine_fixed
  have hrow : ∀ name result, (name, result) ∈ report.analyzerResults.entries →
      IsOneLine (analyzerLine false name result) := by
    intro name result hentry
    exact isOneLine_analyzerLine (h.analyzers name (List.mem_map_of_mem hentry)) result
  have hissues : (issueLines false report.summary.totalGaps report.groups).Forall IsOneLine := by
    unfold issueLines
    split
    · trivial
    · rw [List.forall_append, forall_flatMap]
      refine ⟨?_, fun group hgroup => isOneLine_groupLines h hgroup⟩
      simp +decide [toString]
  have hpath := h.projectPath
  have hwork := h.estimatedWork
  have hlabel := Score.isOneLine_label report.overallScore
  simpa +decide [Report.terminalLines, hscore, hissues, hpath, hwork, hlabel,
    isOneLine_verdictText, scoreText, paint_false, toString] using And.intro hrow h.recommendations

end Terminal

end GapAudit
