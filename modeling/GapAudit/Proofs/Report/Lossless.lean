import Mathlib
import GapAudit.Proofs.Json.RoundTrip
import GapAudit.Proofs.Report.Forms

/-!
# The text of a report loses nothing

A report comes back from its own text exactly where all its doubles are finite; where one is not,
the text is refused (`text_lossless`). What any text is read as comes back from its own text.
-/

namespace GapAudit.Report

/-- A report whose counts, times and whole numbers have 64 bits. -/
structure Fits (report : Report Float) : Prop where
  results : ∀ entry ∈ report.analyzerResults.entries, entry.2.Fits
  summary : report.summary.Fits

/-- The doubles of a report: the scores and those of the metadata. -/
def doubles (report : Report Float) : List Float :=
  report.overallScore :: report.analyzerResults.entries.flatMap fun entry => entry.2.doubles

/-- The moment and the finite doubles of a report are read from their own texts. -/
structure ReadsBack (report : Report Float) : Prop where
  timestamp : Timestamp.parse? report.timestamp.dataText = some report.timestamp
  doubles : ∀ x ∈ report.doubles, x.isFinite = true → Json.ReadsBack x

lemma legible_toJson {report : Report Float} (hfits : report.Fits)
    (hread : ∀ x ∈ report.doubles, x.isFinite = true → Json.ReadsBack x) :
    report.toJson.Legible := by
  rw [toJson, Json.legible_ofMembers]
  have hscore := Json.lossless_float.legible report.overallScore trivial
    fun x hx => hread x (List.mem_append_left _ hx)
  have hresults := AnalyzerResult.lossless.keyed.legible report.analyzerResults hfits.results
    fun x hx => hread x (List.mem_cons_of_mem _ hx)
  have hsummary := Summary.lossless.legible report.summary hfits.summary (by simp)
  have hrecommendations := Json.lossless_string.list.legible report.recommendations
    (fun _ _ => trivial) (by simp)
  intro member hmember
  simp only [List.mem_cons, List.not_mem_nil, or_false] at hmember
  rcases hmember with rfl | rfl | rfl | rfl | rfl | rfl
  · rfl
  · rfl
  · exact hscore
  · exact hresults
  · exact hsummary
  · exact hrecommendations

lemma toFields?_toJson (report : Report Float) :
    report.toJson.asRead.toFields? fieldNames =
      some [some (.ofString report.timestamp.dataText), some (.ofString report.projectPath),
        some (Json.ofFloat report.overallScore).asRead,
        some (Json.ofKeyed AnalyzerResult.toJson report.analyzerResults).asRead,
        some report.summary.toJson.asRead,
        some (Json.ofList Json.ofString report.recommendations).asRead] :=
  Json.toFields?_asRead _ [] rfl (by decide)

lemma ofJson?_of_toFields? {value timestamp path score results summary recommendations : Json}
    (h : value.toFields? fieldNames = some [some timestamp, some path, some score, some results,
      some summary, some recommendations]) :
    ofJson? value =
      timestamp.toString?.bind fun text => (Timestamp.parse? text).bind fun timestamp =>
        path.toString?.bind fun path => score.toFloat?.bind fun score =>
          (results.toKeyed? AnalyzerResult.ofJson?).bind fun results =>
            (Summary.ofJson? summary).bind fun summary =>
              (recommendations.toList? Json.toString?).bind fun recommendations =>
                some ⟨timestamp, path, score, results, summary, recommendations⟩ := by
  rw [ofJson?, h]
  rfl

lemma ofJson?_asRead_toJson {report : Report Float} (hfits : report.Fits)
    (htime : Timestamp.parse? report.timestamp.dataText = some report.timestamp) :
    ofJson? report.toJson.asRead =
      if report.doubles.all Float.isFinite then some report else none := by
  have hresults := AnalyzerResult.lossless.keyed.recovered report.analyzerResults hfits.results
  have hrecommendations := Json.lossless_string.list.recovered_of_finite
    (x := report.recommendations) (fun _ _ => trivial) (by simp)
  rw [ofJson?_of_toFields? (toFields?_toJson report), toString?_ofString, toString?_ofString,
    Json.toFloat?_asRead, hresults, Summary.lossless.recovered_of_finite hfits.summary rfl,
    hrecommendations, doubles, List.all_cons]
  simp only [Option.bind_some, htime]
  by_cases hx : report.overallScore.isFinite = true
  · cases (report.analyzerResults.entries.flatMap
        fun entry => entry.2.doubles).all Float.isFinite <;>
      simp [hx]
  · simp [hx]

lemma sound_ofJson? {value : Json} {report : Report Float} (h : ofJson? value = some report) :
    report.Fits ∧ report.doubles.all Float.isFinite = true := by
  obtain ⟨fields, hfields, h⟩ := Option.bind_eq_some_iff.mp h
  split at h
  next timestamp path score results summary recommendations =>
    simp only [Option.bind_eq_bind, Option.bind_eq_some_iff] at h
    obtain ⟨_, -, _, -, timestamp, -, _, -, path, -, _, -, score, hscore, _, -, results, hresults,
      _, -, summary, hsummary, _, -, recommendations, -, hreport⟩ := h
    obtain rfl := Option.some.inj hreport
    obtain ⟨hfits, hfinite⟩ := AnalyzerResult.lossless.keyed.sound hresults
    refine ⟨⟨hfits, (Summary.lossless.sound hsummary).1⟩, ?_⟩
    rw [doubles, List.all_cons, Json.isFinite_of_toFloat? hscore, hfinite]
    rfl
  · simp at h

/-- What the text of a report is read as. -/
lemma parse?_text {report : Report Float} (hfits : report.Fits) (hread : report.ReadsBack) :
    parse? report.text = if report.doubles.all Float.isFinite then some report else none := by
  rw [parse?, text, Json.indentedText,
    Json.parse?_print .indented (legible_toJson hfits hread.doubles), Option.bind_eq_bind,
    Option.bind_some, ofJson?_asRead_toJson hfits hread.timestamp]

/-- A report comes back from its text if all its doubles are finite; if one is not, its text is
refused. A report that was read from any text comes back from its own text. -/
theorem text_lossless :
    (∀ report : Report Float, report.Fits → report.ReadsBack →
      ((∀ x ∈ report.doubles, x.isFinite = true) → parse? report.text = some report) ∧
        ((∃ x ∈ report.doubles, ¬x.isFinite = true) → parse? report.text = none)) ∧
    ∀ (source : String) (report : Report Float), parse? source = some report →
      report.ReadsBack → parse? report.text = some report := by
  refine ⟨?_, ?_⟩
  · intro report hfits hread
    rw [parse?_text hfits hread]
    constructor
    · intro hfinite
      rw [if_pos (List.all_eq_true.mpr hfinite)]
    · rintro ⟨x, hx, hinfinite⟩
      rw [if_neg]
      intro hfinite
      exact hinfinite (List.all_eq_true.mp hfinite x hx)
  · intro source report hsource hread
    obtain ⟨value, -, hvalue⟩ := Option.bind_eq_some_iff.mp hsource
    obtain ⟨hfits, hfinite⟩ := sound_ofJson? hvalue
    rw [parse?_text hfits hread, if_pos hfinite]

/-- A result with metadata of every kind: empty ones, a whole double, a negative zero and the
smallest whole number among them, and with gaps with and without an effort. -/
def sampleResult : AnalyzerResult Float where
  analyzerName := "components"
  score := 76.25
  executionTime := 18446744073709551615
  gaps := [
    { id := "a", severity := .high, category := "c", description := "\"\\\n\t\x01",
      recommendation := "", affectedFiles := ["src/a.rs", ""], estimatedEffort := some .low },
    { id := "b", severity := .low, category := "é", description := "", recommendation := "🟢" }]
  metadata := {
    entries := [("bool", .bool true), ("int", .int (-9223372036854775808)), ("list", .list []),
      ("map", .map ⟨[], List.Pairwise.nil⟩), ("real", .float 3.0), ("text", .text "1"),
      ("zeros", .map ⟨[("minus", -0.0), ("plus", 0.0)], by decide⟩)]
    sorted := by decide }

/-- A report of one such result. -/
def sampleReport : Report Float where
  timestamp := ⟨1772600767, 123000000⟩
  projectPath := "/srv/project"
  overallScore := 76.25
  analyzerResults := ⟨[("components", sampleResult)], List.pairwise_singleton _ _⟩
  summary := ⟨2, ⟨0, 1, 0, 1⟩, 1, 0, "1-2 days"⟩
  recommendations := ["Overall completion is 76.2%"]

lemma sampleReport_fits : sampleReport.Fits := by
  have hmetadata : ∀ entry ∈ sampleResult.metadata.entries, entry.2.Fits := by
    intro entry hentry
    simp only [sampleResult, List.mem_cons, List.not_mem_nil, or_false] at hentry
    rcases hentry with rfl | rfl | rfl | rfl | rfl | rfl | rfl
    all_goals trivial
  refine ⟨?_, ⟨by decide, ⟨by decide, by decide, by decide, by decide⟩, by decide, by decide⟩⟩
  intro entry hentry
  obtain rfl := List.mem_singleton.mp hentry
  exact ⟨by decide, hmetadata⟩

theorem text_lossless_sample :
    sampleReport.Fits ∧ sampleReport.ReadsBack ∧ parse? sampleReport.text = some sampleReport ∧
      parse? { sampleReport with overallScore := 0 / 0 }.text = none := by
  have hread : sampleReport.ReadsBack := ⟨by decide +kernel, by decide +kernel⟩
  have hfinite : ∀ x ∈ sampleReport.doubles, x.isFinite = true := by decide +kernel
  have hspoilt : Fits { sampleReport with overallScore := 0 / 0 } :=
    ⟨sampleReport_fits.results, sampleReport_fits.summary⟩
  have hspoiltRead : ReadsBack { sampleReport with overallScore := 0 / 0 } :=
    ⟨by decide +kernel, by decide +kernel⟩
  have hnan : ∃ x ∈ doubles { sampleReport with overallScore := 0 / 0 }, ¬x.isFinite = true :=
    ⟨0 / 0, List.mem_cons_self, by decide +kernel⟩
  have hback := (text_lossless.1 sampleReport sampleReport_fits hread).1 hfinite
  have hagain := text_lossless.2 sampleReport.text sampleReport hback hread
  exact ⟨sampleReport_fits, hread, hagain, (text_lossless.1 _ hspoilt hspoiltRead).2 hnan⟩

end GapAudit.Report
