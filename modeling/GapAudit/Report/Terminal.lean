import GapAudit.Report.Groups

/-!
The summary of a report for a terminal, with or without colour, and the verdict on it.
-/

namespace GapAudit

open Arithmetic

/-- What a terminal can do to a piece of text. -/
inductive Ink where
  | bold
  | dimmed
  | red
  | green
  | yellow
  | blue
  | cyan
  deriving DecidableEq, Repr

namespace Ink

def code : Ink → String
  | .bold => "1"
  | .dimmed => "2"
  | .red => "31"
  | .green => "32"
  | .yellow => "33"
  | .blue => "34"
  | .cyan => "36"

def reset : String := "\x1b[0m"

def start (inks : List Ink) : String :=
  "\x1b[" ++ ";".intercalate (inks.map code) ++ "m"

/-- The text with a sequence put behind each of its own sequences that switch everything off. -/
def resumeAfterReset (resumed : List Char) : List Char → List Char
  | [] => []
  | '\x1b' :: '[' :: '0' :: 'm' :: s =>
    reset.toList ++ resumed ++ resumeAfterReset resumed s
  | c :: s => c :: resumeAfterReset resumed s

/-- The text with inks on a terminal that has colour. Where the text itself switches everything off,
the inks are switched on again. -/
def paint (color : Bool) (inks : List Ink) (text : String) : String :=
  if color then
    start inks ++ String.ofList (resumeAfterReset (start inks).toList text.toList) ++ reset
  else text

end Ink

open Ink

namespace Terminal

variable {α : Type} [Arithmetic α]

def programName : String := "gapcheck"

def programVersion : String := "0.1.0"

/-- The text with blanks behind it up to a width. -/
def padEnd (width : Nat) (text : String) : String :=
  text ++ String.ofList (List.replicate (width - text.length) ' ')

/-- The text with blanks before it up to a width. -/
def padStart (width : Nat) (text : String) : String :=
  String.ofList (List.replicate (width - text.length) ' ') ++ text

def scoreInks (score : α) : List Ink :=
  if le 80 score then [.bold, .green]
  else if le 70 score then [.green]
  else if le 50 score then [.yellow]
  else [.red]

def scoreText (color : Bool) (score : α) : String :=
  paint color (scoreInks score) (text 1 score)

def severityTag (color : Bool) : Severity → String
  | .critical => paint color [.bold, .red] "CRIT  "
  | .high => paint color [.red] "HIGH  "
  | .medium => paint color [.yellow] "MEDIUM"
  | .low => paint color [.blue] "LOW   "

def analyzerLine (color : Bool) (name : String) (result : AnalyzerResult α) : String :=
  let score := if result.isFailed then paint color [.red] "FAILED" else scoreText color result.score
  s!"    {padEnd 14 name} {padStart 8 score}  {result.gaps.length} issue(s)  " ++
    paint color [.dimmed] s!"{result.executionTime}ms"

/-- The line with the first of the files of a gap. -/
def fileLines (color : Bool) : List String → List String
  | [] => []
  | [file] => ["             " ++ paint color [.blue] file]
  | file :: more =>
    ["             " ++ paint color [.blue] file ++ " " ++
      paint color [.dimmed] s!"(+{more.length} more)"]

def findingLines (color : Bool) (finding : Finding) : List String :=
  s!"    {severityTag color finding.2.severity} {finding.2.description}" ::
    fileLines color finding.2.affectedFiles

def groupLines (color : Bool) (group : FindingGroup) : List String :=
  ["  " ++ paint color [.bold] group.category] ++
    group.findings.flatMap (findingLines color) ++ [""]

def issueLines (color : Bool) (total : Nat) (groups : List FindingGroup) : List String :=
  if groups.isEmpty then []
  else
    ["  " ++ paint color [.bold] "Issues" ++ s!" ({total}):", ""] ++
      groups.flatMap (groupLines color)

/-- The words for a verdict. -/
def verdictText (color passed : Bool) (good bad : String) : String :=
  if passed then paint color [.green] good else paint color [.red] bad

end Terminal

def Report.passes {α : Type} [Arithmetic α] (report : Report α) (threshold : α) : Bool :=
  le threshold report.overallScore

open Terminal in
def Report.terminalLines {α : Type} [Arithmetic α] (report : Report α) (threshold : α)
    (color : Bool) : List String :=
  let passed := report.passes threshold
  let verdict := verdictText color passed "✓ PASS" "✗ FAIL"
  let score := report.overallScore
  let label := paint color [.bold] (Score.label score)
  ["", s!"  {paint color [.bold, .cyan] programName} v{programVersion}", "",
    "  " ++ paint color [.dimmed] "Project: " ++ report.projectPath, "",
    s!"  {verdict}  Completion: {scoreText color score}  {label}", "",
    "  " ++ paint color [.bold] "Analyzers:"] ++
    (report.analyzerResults.entries.map fun (name, result) => analyzerLine color name result) ++
    [""] ++ issueLines color report.summary.totalGaps report.groups ++
    ["  " ++ paint color [.bold] "Recommendations:"] ++
    report.recommendations.map ("    " ++ ·) ++
    ["", "  " ++ paint color [.dimmed] s!"Threshold: {Arithmetic.text 0 threshold}" ++
      s!"  Estimated work: {report.summary.estimatedWork}  " ++
      verdictText color passed "PASSED" "FAILED"]

def Report.terminalText {α : Type} [Arithmetic α] (report : Report α) (threshold : α)
    (color : Bool) : String :=
  Text.ofLines (report.terminalLines threshold color)

end GapAudit
