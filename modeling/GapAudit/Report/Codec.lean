import GapAudit.Json.Printer
import GapAudit.Json.Reader
import GapAudit.Report

/-!
The JSON form of gaps, results and reports: one function that writes each of them and one that reads
it back.
-/

namespace GapAudit

/-- An enumeration value: its name, or a record whose only member has the name and no content. -/
def Json.toNamed? {α : Type} (ofName? : String → Option α) : Json → Option α
  | .string s => s.bind ofName?
  | .object [(some name, .null)] => ofName? name
  | _ => none

namespace Gap

def fieldNames : List String :=
  ["id", "severity", "category", "description", "recommendation", "affectedFiles",
    "estimatedEffort"]

/-- The JSON form; an effort that is not estimated is left out. -/
def toJson (gap : Gap) : Json :=
  .ofMembers ([
    ("id", .ofString gap.id),
    ("severity", .ofString gap.severity.name),
    ("category", .ofString gap.category),
    ("description", .ofString gap.description),
    ("recommendation", .ofString gap.recommendation),
    ("affectedFiles", .ofList Json.ofString gap.affectedFiles)] ++
      gap.estimatedEffort.toList.map fun effort => ("estimatedEffort", .ofString effort.name))

/-- An effort that may be missing or null. -/
def effortOfJson? : Option Json → Option (Option Effort)
  | none | some .null => some none
  | some value => (value.toNamed? Effort.ofName?).map some

def ofJson? (value : Json) : Option Gap := do
  match ← value.toFields? fieldNames with
  | [id, severity, category, description, recommendation, affectedFiles, effort] =>
    return {
      id := ← (← id).toString?
      severity := ← (← severity).toNamed? Severity.ofName?
      category := ← (← category).toString?
      description := ← (← description).toString?
      recommendation := ← (← recommendation).toString?
      affectedFiles := ← affectedFiles.elim (some []) (Json.toList? Json.toString?)
      estimatedEffort := ← effortOfJson? effort }
  | _ => none

end Gap

/-- The collection that the members of an object denote; of two members under one key the later
counts. -/
def Json.toKeyed? {β : Type} (decode : Json → Option β) (value : Json) : Option (Keyed β) := do
  let members ← value.toMembers?
  return Keyed.ofEntries (← members.mapM fun (key, value) => (decode value).map (key, ·))

def Json.ofKeyed {β : Type} (encode : β → Json) (m : Keyed β) : Json :=
  .ofMembers (m.entries.map fun (key, value) => (key, encode value))

namespace MetadataValue

/-- The JSON form, which does not tell the kind. -/
def toJson : MetadataValue → Json
  | .bool b => .bool b
  | .int n => .number (.whole n)
  | .float x => .ofFloat x
  | .text s => .ofString s
  | .list texts => .ofList Json.ofString texts
  | .map numbers => .ofKeyed Json.ofFloat numbers

/-- The metadata value that a JSON value denotes: the first kind that fits, a whole number of 64
bits before a double, and a list before a map. -/
def ofJson? (value : Json) : Option MetadataValue :=
  (value.toBool?.map .bool) <|> (value.toInt64?.map .int) <|> (value.toFloat?.map .float) <|>
    (value.toString?.map .text) <|> ((value.toList? Json.toString?).map .list) <|>
    ((value.toKeyed? Json.toFloat?).map .map)

end MetadataValue

namespace AnalyzerResult

def fieldNames : List String :=
  ["analyzerName", "score", "executionTime", "gaps", "metadata"]

def toJson (result : AnalyzerResult Float) : Json :=
  .ofMembers [
    ("analyzerName", .ofString result.analyzerName),
    ("score", .ofFloat result.score),
    ("executionTime", .ofNat result.executionTime),
    ("gaps", .ofList Gap.toJson result.gaps),
    ("metadata", .ofKeyed MetadataValue.toJson result.metadata)]

def ofJson? (value : Json) : Option (AnalyzerResult Float) := do
  match ← value.toFields? fieldNames with
  | [name, score, time, gaps, metadata] =>
    return {
      analyzerName := ← (← name).toString?
      score := ← (← score).toFloat?
      executionTime := ← (← time).toCount?
      gaps := ← (← gaps).toList? Gap.ofJson?
      metadata := ← metadata.elim (some Keyed.empty) (Json.toKeyed? MetadataValue.ofJson?) }
  | _ => none

end AnalyzerResult

namespace Histogram

def fieldNames : List String :=
  ["critical", "high", "medium", "low"]

def toJson (h : Histogram) : Json :=
  .ofMembers [("critical", .ofNat h.critical), ("high", .ofNat h.high),
    ("medium", .ofNat h.medium), ("low", .ofNat h.low)]

def ofJson? (value : Json) : Option Histogram := do
  match ← value.toFields? fieldNames with
  | [critical, high, medium, low] =>
    return {
      critical := ← (← critical).toCount?
      high := ← (← high).toCount?
      medium := ← (← medium).toCount?
      low := ← (← low).toCount? }
  | _ => none

end Histogram

namespace Summary

def fieldNames : List String :=
  ["totalGaps", "gapsBySeverity", "totalAnalyzers", "failedAnalyzers", "estimatedWork"]

def toJson (summary : Summary) : Json :=
  .ofMembers [
    ("totalGaps", .ofNat summary.totalGaps),
    ("gapsBySeverity", summary.gapsBySeverity.toJson),
    ("totalAnalyzers", .ofNat summary.totalAnalyzers),
    ("failedAnalyzers", .ofNat summary.failedAnalyzers),
    ("estimatedWork", .ofString summary.estimatedWork)]

def ofJson? (value : Json) : Option Summary := do
  match ← value.toFields? fieldNames with
  | [gaps, bySeverity, analyzers, failed, work] =>
    return {
      totalGaps := ← (← gaps).toCount?
      gapsBySeverity := ← Histogram.ofJson? (← bySeverity)
      totalAnalyzers := ← (← analyzers).toCount?
      failedAnalyzers := ← (← failed).toCount?
      estimatedWork := ← (← work).toString? }
  | _ => none

end Summary

namespace Report

def fieldNames : List String :=
  ["timestamp", "projectPath", "overallScore", "analyzerResults", "summary", "recommendations"]

def toJson (report : Report Float) : Json :=
  .ofMembers [
    ("timestamp", .ofString report.timestamp.dataText),
    ("projectPath", .ofString report.projectPath),
    ("overallScore", .ofFloat report.overallScore),
    ("analyzerResults", .ofKeyed AnalyzerResult.toJson report.analyzerResults),
    ("summary", report.summary.toJson),
    ("recommendations", .ofList Json.ofString report.recommendations)]

def ofJson? (value : Json) : Option (Report Float) := do
  match ← value.toFields? fieldNames with
  | [timestamp, path, score, results, summary, recommendations] =>
    return {
      timestamp := ← Timestamp.parse? (← (← timestamp).toString?)
      projectPath := ← (← path).toString?
      overallScore := ← (← score).toFloat?
      analyzerResults := ← (← results).toKeyed? AnalyzerResult.ofJson?
      summary := ← Summary.ofJson? (← summary)
      recommendations := ← (← recommendations).toList? Json.toString? }
  | _ => none

def text (report : Report Float) : String :=
  report.toJson.indentedText

def parse? (text : String) : Option (Report Float) :=
  Json.parse? text >>= ofJson?

end Report

end GapAudit
