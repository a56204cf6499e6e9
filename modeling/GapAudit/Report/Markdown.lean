import GapAudit.Report.Groups
import GapAudit.Text.Case

/-!
The Markdown document of a report: a summary, a table of scores, the issues by category, and the
recommendations.
-/

namespace GapAudit

open Arithmetic

namespace Markdown

variable {α : Type} [Arithmetic α]

def code (s : String) : String :=
  "\x60" ++ s ++ "\x60"

def statusLabel (result : AnalyzerResult α) : String :=
  if result.isFailed then "Failed" else Score.label result.score

def titleLines (report : Report α) : List String :=
  ["# Gap Analysis Report", "", s!"**Project:** {code report.projectPath}  ",
    s!"**Generated:** {report.timestamp.documentText}", ""]

def summaryLines (report : Report α) : List String :=
  let summary := report.summary
  let score := report.overallScore
  ["## Executive Summary", "", s!"**Overall Score:** {text 2 score}/100 ({Score.label score})", "",
    s!"- Total issues: {summary.totalGaps}"] ++
    (Severity.all.map fun severity =>
      s!"  - {severity.badge}: {summary.gapsBySeverity.count severity}") ++
    [s!"- Analyzers: {summary.totalAnalyzers} ({summary.failedAnalyzers} failed)",
      s!"- Estimated work remaining: {summary.estimatedWork}", ""]

def scoreRow (name : String) (result : AnalyzerResult α) : String :=
  s!"| {name} | {text 1 result.score} | {statusLabel result} | {result.gaps.length} | " ++
    s!"{result.executionTime} |"

def scoreLines (report : Report α) : List String :=
  ["## Analyzer Scores", "", "| Analyzer | Score | Status | Issues | Time (ms) |",
    "|----------|-------|--------|--------|-----------|"] ++
    (report.analyzerResults.entries.map fun (name, result) => scoreRow name result) ++ [""]

def fileLines (gap : Gap) : List String :=
  if gap.affectedFiles.isEmpty then []
  else ["- **Files:** " ++ ", ".intercalate (gap.affectedFiles.map code)]

def findingLines (finding : Finding) : List String :=
  let (analyzer, gap) := finding
  [s!"#### {gap.severity.badge} {gap.description}", "", s!"- **Analyzer:** {analyzer}",
    s!"- **Recommendation:** {gap.recommendation}"] ++
    (gap.estimatedEffort.toList.map fun effort => s!"- **Effort:** {effort.label}") ++
    fileLines gap ++ [""]

def groupLines (group : FindingGroup) : List String :=
  let title := String.ofList (Text.capitalize group.category.toList)
  [s!"### {title} ({group.findings.length})", ""] ++ group.findings.flatMap findingLines

def issueLines (groups : List FindingGroup) : List String :=
  ["## Issues by Category", ""] ++ (if groups.isEmpty then ["No issues found.", ""] else []) ++
    groups.flatMap groupLines

/-- The recommendations, numbered from the given number on. -/
def numbered (number : Nat) : List String → List String
  | [] => []
  | item :: items => s!"{number}. {item}" :: numbered (number + 1) items

def recommendationLines (report : Report α) : List String :=
  ["## Recommendations", ""] ++ numbered 1 report.recommendations

def lines (report : Report α) : List String :=
  titleLines report ++ summaryLines report ++ scoreLines report ++ issueLines report.groups ++
    recommendationLines report

end Markdown

def Report.markdown {α : Type} [Arithmetic α] (report : Report α) : String :=
  Text.ofLines (Markdown.lines report)

end GapAudit
