import Mathlib
import GapAudit.Proofs.Json.Lossless

/-!
# The parts of a report lose nothing in their forms

Gaps, metadata values, results, histograms and summaries come back from their JSON forms. A metadata
value comes back in its own kind, although its form does not tell the kind: a whole number is tried
before a double, a list before a collection, and no form of one kind fits a kind tried earlier.
-/

namespace GapAudit

open Json (Lossless)

lemma Severity.ofName?_name (severity : Severity) : ofName? severity.name = some severity := by
  cases severity <;> decide

lemma Effort.ofName?_name (effort : Effort) : ofName? effort.name = some effort := by
  cases effort <;> decide

lemma toString?_ofString (s : String) : (Json.ofString s).toString? = some s :=
  rfl

lemma toNamed?_ofString {α : Type} (ofName? : String → Option α) (s : String) :
    (Json.ofString s).toNamed? ofName? = ofName? s :=
  rfl

namespace Gap

lemma effortOfJson?_map (effort : Option Effort) :
    effortOfJson? (effort.map fun effort => .ofString effort.name) = some effort := by
  cases effort with
  | none => rfl
  | some effort =>
    change ((Json.ofString effort.name).toNamed? Effort.ofName?).map some = _
    rw [toNamed?_ofString, Effort.ofName?_name]
    rfl

lemma toFields?_toJson (gap : Gap) :
    gap.toJson.asRead.toFields? fieldNames =
      some [some (.ofString gap.id), some (.ofString gap.severity.name),
        some (.ofString gap.category), some (.ofString gap.description),
        some (.ofString gap.recommendation),
        some (Json.ofList Json.ofString gap.affectedFiles).asRead,
        gap.estimatedEffort.map fun effort => .ofString effort.name] := by
  cases heffort : gap.estimatedEffort with
  | none =>
    rw [toJson, heffort]
    exact Json.toFields?_asRead _ ["estimatedEffort"] rfl (by decide)
  | some effort =>
    rw [toJson, heffort]
    exact Json.toFields?_asRead _ [] rfl (by decide)

/-- A gap comes back from its form. -/
theorem lossless : Lossless toJson ofJson? (fun _ => True) (fun _ => []) where
  legible := by
    intro gap _ _
    rw [toJson, Json.legible_ofMembers]
    have hfiles := Json.lossless_string.list.legible gap.affectedFiles (fun _ _ => trivial)
      (by simp)
    intro member hmember
    rcases List.mem_append.mp hmember with hfield | heffort
    · simp only [List.mem_cons, List.not_mem_nil, or_false] at hfield
      rcases hfield with rfl | rfl | rfl | rfl | rfl | rfl
      all_goals first | rfl | exact hfiles
    · obtain ⟨effort, -, rfl⟩ := List.mem_map.mp heffort
      rfl
  recovered := by
    intro gap _
    have hfiles : (Json.ofList Json.ofString gap.affectedFiles).asRead.toList? Json.toString? =
        some gap.affectedFiles := by
      exact Json.lossless_string.list.recovered_of_finite (fun _ _ => trivial) (by simp)
    have heffort := effortOfJson?_map gap.estimatedEffort
    rw [ofJson?, toFields?_toJson]
    simp only [Option.bind_eq_bind, Option.bind_some, toString?_ofString, toNamed?_ofString,
      Severity.ofName?_name, Option.elim_some, hfiles, heffort]
    rfl
  sound := fun _ => ⟨trivial, rfl⟩

end Gap

namespace MetadataValue

/-- A metadata value whose whole number has 64 bits. -/
def Fits : MetadataValue → Prop
  | .int n => -(Json.signedLimit : Int) ≤ n ∧ n < Json.signedLimit
  | _ => True

def doubles : MetadataValue → List Float
  | .float x => [x]
  | .map numbers => numbers.entries.flatMap fun entry => [entry.2]
  | _ => []

lemma ofJson?_null : ofJson? .null = none :=
  rfl

lemma ofJson?_string (s : Option String) : ofJson? (.string s) = s.map .text := by
  simp [ofJson?, Json.toBool?, Json.toInt64?, Json.toFloat?, Json.toString?, Json.toList?,
    Json.toKeyed?, Json.toMembers?]

lemma ofJson?_whole (n : Int) :
    ofJson? (.number (.whole n)) =
      if -(Json.signedLimit : Int) ≤ n ∧ n < Json.signedLimit then some (.int n)
      else (Json.number (.whole n)).toFloat?.map .float := by
  simp only [ofJson?, Json.toBool?, Json.toInt64?, Json.toString?, Json.toList?, Json.toKeyed?,
    Json.toMembers?, Bool.and_eq_true, decide_eq_true_eq]
  split <;> simp

lemma ofJson?_real (x : Float) :
    ofJson? (.number (.real x)) = (Json.number (.real x)).toFloat?.map .float := by
  simp [ofJson?, Json.toBool?, Json.toInt64?, Json.toString?, Json.toList?, Json.toKeyed?,
    Json.toMembers?]

lemma ofJson?_array (items : List Json) :
    ofJson? (.array items) = ((Json.array items).toList? Json.toString?).map .list := by
  simp [ofJson?, Json.toBool?, Json.toInt64?, Json.toFloat?, Json.toString?, Json.toKeyed?,
    Json.toMembers?]

lemma ofJson?_object (members : List (Option String × Json)) :
    ofJson? (.object members) = ((Json.object members).toKeyed? Json.toFloat?).map .map := by
  simp [ofJson?, Json.toBool?, Json.toInt64?, Json.toFloat?, Json.toString?, Json.toList?]

lemma sound_float {value : Json} {x : MetadataValue}
    (h : value.toFloat?.map .float = some x) :
    x.Fits ∧ x.doubles.all Float.isFinite = true := by
  obtain ⟨y, hy, rfl⟩ := Option.map_eq_some_iff.mp h
  exact ⟨trivial, (Json.lossless_float.sound hy).2⟩

/-- A metadata value comes back from its form in its own kind. -/
theorem lossless : Lossless toJson ofJson? Fits doubles where
  legible := by
    intro value hfits hread
    cases value with
    | bool b => trivial
    | int n =>
      obtain ⟨hlow, hhigh⟩ := hfits
      have hword : (Json.signedLimit : Int) ≤ Json.wordLimit := by decide
      exact ⟨hlow, lt_of_lt_of_le hhigh hword⟩
    | float x => exact Json.lossless_float.legible x trivial hread
    | text s => rfl
    | list texts => exact Json.lossless_string.list.legible texts (fun _ _ => trivial) (by simp)
    | map numbers => exact Json.lossless_float.keyed.legible numbers (fun _ _ => trivial) hread
  recovered := by
    intro value hfits
    cases value with
    | bool b => rfl
    | int n =>
      have hrange : -(Json.signedLimit : Int) ≤ n ∧ n < Json.signedLimit := hfits
      change ofJson? (.number (.whole n)) = some (.int n)
      rw [ofJson?_whole, if_pos hrange]
    | float x =>
      by_cases hx : x.isFinite = true
      · have hform : (toJson (.float x)).asRead = .number (.real x) := if_pos hx
        rw [hform, ofJson?_real]
        simp [doubles, Json.toFloat?, hx]
      · have hform : (toJson (.float x)).asRead = .null := if_neg hx
        rw [hform]
        simp [doubles, hx, ofJson?_null]
    | text s => rfl
    | list texts =>
      have hread := Json.lossless_string.list.recovered texts fun _ _ => trivial
      change ofJson? (.array _) = _
      rw [ofJson?_array]
      change ((Json.ofList Json.ofString texts).asRead.toList? Json.toString?).map list = _
      rw [hread]
      simp [doubles]
    | map numbers =>
      have hread := Json.lossless_float.keyed.recovered numbers fun _ _ => trivial
      change ofJson? (.object _) = _
      rw [ofJson?_object]
      change ((Json.ofKeyed Json.ofFloat numbers).asRead.toKeyed? Json.toFloat?).map map = _
      rw [hread, doubles]
      split <;> rfl
  sound := by
    intro value x hvalue
    cases value with
    | null => simp [ofJson?_null] at hvalue
    | bool b =>
      obtain rfl : MetadataValue.bool b = x := Option.some.inj hvalue
      exact ⟨trivial, rfl⟩
    | number n =>
      cases n with
      | whole n =>
        rw [ofJson?_whole] at hvalue
        split at hvalue
        next hrange =>
          obtain rfl : MetadataValue.int n = x := Option.some.inj hvalue
          exact ⟨hrange, rfl⟩
        · exact sound_float hvalue
      | real y =>
        rw [ofJson?_real] at hvalue
        exact sound_float hvalue
    | string s =>
      rw [ofJson?_string] at hvalue
      obtain ⟨text, -, rfl⟩ := Option.map_eq_some_iff.mp hvalue
      exact ⟨trivial, rfl⟩
    | array items =>
      rw [ofJson?_array] at hvalue
      obtain ⟨texts, -, rfl⟩ := Option.map_eq_some_iff.mp hvalue
      exact ⟨trivial, rfl⟩
    | object members =>
      rw [ofJson?_object] at hvalue
      obtain ⟨numbers, hnumbers, rfl⟩ := Option.map_eq_some_iff.mp hvalue
      exact ⟨trivial, (Json.lossless_float.keyed.sound hnumbers).2⟩

end MetadataValue

namespace AnalyzerResult

/-- A result whose time and whole numbers have 64 bits. -/
structure Fits (result : AnalyzerResult Float) : Prop where
  time : result.executionTime < Json.wordLimit
  metadata : ∀ entry ∈ result.metadata.entries, entry.2.Fits

def doubles (result : AnalyzerResult Float) : List Float :=
  result.score :: result.metadata.entries.flatMap fun entry => entry.2.doubles

lemma toFields?_toJson (result : AnalyzerResult Float) :
    result.toJson.asRead.toFields? fieldNames =
      some [some (.ofString result.analyzerName), some (Json.ofFloat result.score).asRead,
        some (Json.ofNat result.executionTime).asRead,
        some (Json.ofList Gap.toJson result.gaps).asRead,
        some (Json.ofKeyed MetadataValue.toJson result.metadata).asRead] :=
  Json.toFields?_asRead _ [] rfl (by decide)

lemma ofJson?_of_toFields? {value name score time gaps metadata : Json}
    (h : value.toFields? fieldNames =
      some [some name, some score, some time, some gaps, some metadata]) :
    ofJson? value =
      name.toString?.bind fun name => score.toFloat?.bind fun score =>
        time.toCount?.bind fun time => (gaps.toList? Gap.ofJson?).bind fun gaps =>
          (metadata.toKeyed? MetadataValue.ofJson?).bind fun metadata =>
            some ⟨name, score, time, gaps, metadata⟩ := by
  rw [ofJson?, h]
  rfl

lemma sound_metadata {field : Option Json} {metadata : Keyed MetadataValue}
    (h : field.elim (some Keyed.empty) (Json.toKeyed? MetadataValue.ofJson?) = some metadata) :
    (∀ entry ∈ metadata.entries, entry.2.Fits) ∧
      (metadata.entries.flatMap fun entry => entry.2.doubles).all Float.isFinite = true := by
  cases field with
  | none =>
    obtain rfl : Keyed.empty = metadata := Option.some.inj h
    exact ⟨by simp [Keyed.empty], rfl⟩
  | some value => exact MetadataValue.lossless.keyed.sound h

/-- A result comes back from its form. -/
theorem lossless : Lossless toJson ofJson? Fits doubles where
  legible := by
    intro result hfits hread
    rw [toJson, Json.legible_ofMembers]
    have hscore := Json.lossless_float.legible result.score trivial
      fun d hd => hread d (List.mem_append_left _ hd)
    have htime := Json.lossless_count.legible result.executionTime hfits.time (by simp)
    have hgaps := Gap.lossless.list.legible result.gaps (fun _ _ => trivial) (by simp)
    have hmetadata := MetadataValue.lossless.keyed.legible result.metadata hfits.metadata
      fun d hd => hread d (List.mem_cons_of_mem _ hd)
    intro member hmember
    simp only [List.mem_cons, List.not_mem_nil, or_false] at hmember
    rcases hmember with rfl | rfl | rfl | rfl | rfl
    · rfl
    · exact hscore
    · exact htime
    · exact hgaps
    · exact hmetadata
  recovered := by
    intro result hfits
    have htime := Json.lossless_count.recovered_of_finite hfits.time rfl
    have hgaps := Gap.lossless.list.recovered_of_finite (x := result.gaps) (fun _ _ => trivial)
      (by simp)
    have hmetadata := MetadataValue.lossless.keyed.recovered result.metadata hfits.metadata
    rw [ofJson?_of_toFields? (toFields?_toJson result), toString?_ofString, Json.toFloat?_asRead,
      htime, hgaps, hmetadata, doubles, List.all_cons]
    by_cases hx : result.score.isFinite = true
    · cases (result.metadata.entries.flatMap fun entry => entry.2.doubles).all Float.isFinite <;>
        simp [hx]
    · simp [hx]
  sound := by
    intro value result hvalue
    obtain ⟨fields, hfields, hvalue⟩ := Option.bind_eq_some_iff.mp hvalue
    split at hvalue
    next name score time gaps metadata =>
      simp only [Option.bind_eq_bind, Option.bind_eq_some_iff] at hvalue
      obtain ⟨_, -, name, -, _, -, score, hscore, _, -, time, htime, _, -, gaps, -, metadata,
        hmetadata, hresult⟩ := hvalue
      obtain rfl := Option.some.inj hresult
      have hmeta := sound_metadata hmetadata
      refine ⟨⟨(Json.lossless_count.sound htime).1, hmeta.1⟩, ?_⟩
      rw [doubles, List.all_cons, Json.isFinite_of_toFloat? hscore, hmeta.2]
      rfl
    · simp at hvalue

end AnalyzerResult

namespace Histogram

/-- A histogram whose counts have 64 bits. -/
structure Fits (h : Histogram) : Prop where
  critical : h.critical < Json.wordLimit
  high : h.high < Json.wordLimit
  medium : h.medium < Json.wordLimit
  low : h.low < Json.wordLimit

lemma ofJson?_of_toFields? {value critical high medium low : Json}
    (h : value.toFields? fieldNames = some [some critical, some high, some medium, some low]) :
    ofJson? value =
      critical.toCount?.bind fun critical => high.toCount?.bind fun high =>
        medium.toCount?.bind fun medium => low.toCount?.bind fun low =>
          some ⟨critical, high, medium, low⟩ := by
  rw [ofJson?, h]
  rfl

/-- A histogram comes back from its form. -/
theorem lossless : Lossless toJson ofJson? Fits (fun _ => []) where
  legible := by
    intro h hfits _
    rw [toJson, Json.legible_ofMembers]
    intro member hmember
    simp only [List.mem_cons, List.not_mem_nil, or_false] at hmember
    rcases hmember with rfl | rfl | rfl | rfl
    · exact Json.lossless_count.legible _ hfits.critical (by simp)
    · exact Json.lossless_count.legible _ hfits.high (by simp)
    · exact Json.lossless_count.legible _ hfits.medium (by simp)
    · exact Json.lossless_count.legible _ hfits.low (by simp)
  recovered := by
    intro h hfits
    have hfields : h.toJson.asRead.toFields? fieldNames =
        some [some (Json.ofNat h.critical).asRead, some (Json.ofNat h.high).asRead,
          some (Json.ofNat h.medium).asRead, some (Json.ofNat h.low).asRead] :=
      Json.toFields?_asRead _ [] rfl (by decide)
    rw [ofJson?_of_toFields? hfields, Json.lossless_count.recovered_of_finite hfits.critical rfl,
      Json.lossless_count.recovered_of_finite hfits.high rfl,
      Json.lossless_count.recovered_of_finite hfits.medium rfl,
      Json.lossless_count.recovered_of_finite hfits.low rfl]
    rfl
  sound := by
    intro value h hvalue
    obtain ⟨fields, hfields, hvalue⟩ := Option.bind_eq_some_iff.mp hvalue
    split at hvalue
    next critical high medium low =>
      simp only [Option.bind_eq_bind, Option.bind_eq_some_iff] at hvalue
      obtain ⟨_, -, critical, hcritical, _, -, high, hhigh, _, -, medium, hmedium, _, -, low, hlow,
        hresult⟩ := hvalue
      obtain rfl := Option.some.inj hresult
      exact ⟨⟨(Json.lossless_count.sound hcritical).1, (Json.lossless_count.sound hhigh).1,
        (Json.lossless_count.sound hmedium).1, (Json.lossless_count.sound hlow).1⟩, rfl⟩
    · simp at hvalue

end Histogram

namespace Summary

/-- A summary whose counts have 64 bits. -/
structure Fits (summary : Summary) : Prop where
  totalGaps : summary.totalGaps < Json.wordLimit
  gapsBySeverity : summary.gapsBySeverity.Fits
  totalAnalyzers : summary.totalAnalyzers < Json.wordLimit
  failedAnalyzers : summary.failedAnalyzers < Json.wordLimit

lemma ofJson?_of_toFields? {value gaps bySeverity analyzers failed work : Json}
    (h : value.toFields? fieldNames =
      some [some gaps, some bySeverity, some analyzers, some failed, some work]) :
    ofJson? value =
      gaps.toCount?.bind fun gaps => (Histogram.ofJson? bySeverity).bind fun bySeverity =>
        analyzers.toCount?.bind fun analyzers => failed.toCount?.bind fun failed =>
          work.toString?.bind fun work => some ⟨gaps, bySeverity, analyzers, failed, work⟩ := by
  rw [ofJson?, h]
  rfl

/-- A summary comes back from its form. -/
theorem lossless : Lossless toJson ofJson? Fits (fun _ => []) where
  legible := by
    intro summary hfits _
    rw [toJson, Json.legible_ofMembers]
    intro member hmember
    simp only [List.mem_cons, List.not_mem_nil, or_false] at hmember
    rcases hmember with rfl | rfl | rfl | rfl | rfl
    · exact Json.lossless_count.legible _ hfits.totalGaps (by simp)
    · exact Histogram.lossless.legible _ hfits.gapsBySeverity (by simp)
    · exact Json.lossless_count.legible _ hfits.totalAnalyzers (by simp)
    · exact Json.lossless_count.legible _ hfits.failedAnalyzers (by simp)
    · rfl
  recovered := by
    intro summary hfits
    have hfields : summary.toJson.asRead.toFields? fieldNames =
        some [some (Json.ofNat summary.totalGaps).asRead,
          some summary.gapsBySeverity.toJson.asRead,
          some (Json.ofNat summary.totalAnalyzers).asRead,
          some (Json.ofNat summary.failedAnalyzers).asRead,
          some (.ofString summary.estimatedWork)] :=
      Json.toFields?_asRead _ [] rfl (by decide)
    rw [ofJson?_of_toFields? hfields, Json.lossless_count.recovered_of_finite hfits.totalGaps rfl,
      Histogram.lossless.recovered_of_finite hfits.gapsBySeverity rfl,
      Json.lossless_count.recovered_of_finite hfits.totalAnalyzers rfl,
      Json.lossless_count.recovered_of_finite hfits.failedAnalyzers rfl, toString?_ofString]
    rfl
  sound := by
    intro value summary hvalue
    obtain ⟨fields, hfields, hvalue⟩ := Option.bind_eq_some_iff.mp hvalue
    split at hvalue
    next gaps bySeverity analyzers failed work =>
      simp only [Option.bind_eq_bind, Option.bind_eq_some_iff] at hvalue
      obtain ⟨_, -, gaps, hgaps, _, -, bySeverity, hbySeverity, _, -, analyzers, hanalyzers, _, -,
        failed, hfailed, _, -, work, -, hresult⟩ := hvalue
      obtain rfl := Option.some.inj hresult
      exact ⟨⟨(Json.lossless_count.sound hgaps).1, (Histogram.lossless.sound hbySeverity).1,
        (Json.lossless_count.sound hanalyzers).1, (Json.lossless_count.sound hfailed).1⟩, rfl⟩
    · simp at hvalue

end Summary

end GapAudit
