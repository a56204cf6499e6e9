import Mathlib
import GapAudit.Proofs.Decimal.DataText
import GapAudit.Proofs.Text.Word
import GapAudit.Report.Markdown

/-!
# The lines of a document

The headings of a document are its lines that begin with a hash: no other line does, whatever texts
the report has (`headings_lines`). The sections are the parts between the headings of the second
level, so that a section can be read off the document by its title (`sectionOf_append`).
-/

namespace GapAudit

def begins (mark line : String) : Bool :=
  Text.startsWith mark.toList line.toList

/-- The lines that begin with a mark. -/
def marked (mark : String) (lines : List String) : List String :=
  lines.filter (begins mark)

/-- A line that is empty or begins with a character of a class. -/
def FirstIn (p : Char → Bool) (line : String) : Prop :=
  line.toList.head?.all p = true

lemma marked_append (mark : String) (xs ys : List String) :
    marked mark (xs ++ ys) = marked mark xs ++ marked mark ys :=
  List.filter_append ..

lemma marked_flatMap {β : Type} (mark : String) (xs : List β) (f : β → List String) :
    marked mark (xs.flatMap f) = xs.flatMap fun x => marked mark (f x) :=
  List.filter_flatMap

lemma begins_trans {mark mark' line : String} (hmark : begins mark' mark = true)
    (hline : begins mark line = true) : begins mark' line = true := by
  rw [begins, Text.startsWith_iff] at hmark hline ⊢
  exact hmark.trans hline

/-- The lines with a mark are found among those with the beginning of the mark. -/
lemma marked_marked {mark mark' : String} (h : begins mark' mark = true) (lines : List String) :
    marked mark (marked mark' lines) = marked mark lines := by
  unfold marked
  rw [List.filter_filter]
  apply List.filter_congr
  intro line _
  cases hline : begins mark line with
  | false => rfl
  | true => rw [begins_trans h hline, Bool.and_self]

@[simp] lemma forall_comp {β : Type} {P : String → Prop} {f : β → String} {xs : List β} :
    xs.Forall (P ∘ f) ↔ ∀ x ∈ xs, P (f x) :=
  List.forall_iff_forall_mem

@[simp] lemma forall_flatMap {β : Type} {P : String → Prop} {xs : List β} {f : β → List String} :
    (xs.flatMap f).Forall P ↔ ∀ x ∈ xs, (f x).Forall P := by
  simp only [List.forall_iff_forall_mem, List.mem_flatMap]
  constructor
  · intro h x hx line hline
    exact h line ⟨x, hx, hline⟩
  · rintro h line ⟨x, hx, hline⟩
    exact h x hx line hline

lemma FirstIn.mono {p q : Char → Bool} (hpq : ∀ c, p c = true → q c = true) {line : String}
    (h : FirstIn p line) : FirstIn q line := by
  unfold FirstIn at *
  cases hfirst : line.toList.head? with
  | none => rfl
  | some c =>
    rw [hfirst] at h
    exact hpq c h

/-- Lines that begin with other characters than a mark does are not marked. -/
lemma marked_eq_nil {p : Char → Bool} {lines : List String} (h : lines.Forall (FirstIn p))
    {mark : String} {c : Char} (hmark : mark.toList.head? = some c) (hc : p c = false) :
    marked mark lines = [] := by
  rw [marked, List.filter_eq_nil_iff]
  intro line hmem hbegins
  obtain ⟨rest, hrest⟩ := Text.startsWith_iff.mp hbegins
  have hfirst : line.toList.head? = some c := by
    rw [← hrest, List.head?_append, hmark, Option.some_or]
  have hclass : FirstIn p line := List.forall_iff_forall_mem.mp h line hmem
  rw [FirstIn, hfirst, Option.all_some, hc] at hclass
  cases hclass

namespace Markdown

def headings (lines : List String) : List String :=
  marked "#" lines

lemma headings_cons_of_begins {line : String} (hline : begins "#" line = true)
    {lines : List String} {p : Char → Bool} (hp : p '#' = false) (h : lines.Forall (FirstIn p)) :
    headings (line :: lines) = [line] := by
  have hnone : marked "#" lines = [] := marked_eq_nil h rfl hp
  rw [headings, marked, List.filter_cons_of_pos hline, ← marked, hnone]

lemma headings_append (xs ys : List String) :
    headings (xs ++ ys) = headings xs ++ headings ys :=
  marked_append "#" xs ys

lemma headings_flatMap {β : Type} (xs : List β) (f : β → List String) :
    headings (xs.flatMap f) = xs.flatMap fun x => headings (f x) :=
  marked_flatMap "#" xs f

lemma marked_headings {mark : String} (h : begins "#" mark = true) (lines : List String) :
    marked mark (headings lines) = marked mark lines :=
  marked_marked h lines

/-- The lines below a title, down to the next title of the same level. -/
def sectionOf (title : String) (lines : List String) : List String :=
  ((lines.dropWhile (· != title)).drop 1).takeWhile fun line => !begins "## " line

lemma sectionOf_append {title : String} {front body rest : List String}
    (htitle : begins "## " title = true) (hfront : title ∉ marked "## " front)
    (hbody : marked "## " body = []) (hrest : rest.head?.all (begins "## ") = true) :
    sectionOf title (front ++ title :: body ++ rest) = body := by
  have hbefore : ∀ line ∈ front, (line != title) = true := by
    intro line hmem
    rw [bne_iff_ne]
    rintro rfl
    exact hfront (List.mem_filter.mpr ⟨hmem, htitle⟩)
  have hwithin : ∀ line ∈ body, (!begins "## " line) = true := by
    intro line hmem
    have hline := List.filter_eq_nil_iff.mp hbody line hmem
    simpa using hline
  have hstop : rest.takeWhile (fun line => !begins "## " line) = [] := by
    cases rest with
    | nil => rfl
    | cons line rest =>
      rw [List.head?_cons, Option.all_some] at hrest
      exact List.takeWhile_cons_of_neg (by simp [hrest])
  rw [sectionOf, List.append_assoc, List.cons_append, List.dropWhile_append_of_pos hbefore,
    List.dropWhile_cons_of_neg (by simp), List.drop_one, List.tail_cons,
    List.takeWhile_append_of_pos hwithin, hstop, List.append_nil]

def groupHeading (group : FindingGroup) : String :=
  s!"### {String.ofList (Text.capitalize group.category.toList)} ({group.findings.length})"

def findingHeading (finding : Finding) : String :=
  s!"#### {finding.2.severity.badge} {finding.2.description}"

def groupHeadings (group : FindingGroup) : List String :=
  groupHeading group :: group.findings.map findingHeading

lemma firstIn_findingLines (finding : Finding) :
    (findingLines finding).tail.Forall (FirstIn (· == '-')) := by
  have hfiles : (fileLines finding.2).Forall (FirstIn (· == '-')) := by
    unfold fileLines
    split <;> simp [FirstIn]
  simp [findingLines, hfiles, FirstIn, toString]

/-- The lines of a group are headings, items of lists and empty lines. -/
lemma firstIn_groupLines (group : FindingGroup) :
    (groupLines group).Forall (FirstIn (fun c => c == '#' || c == '-')) := by
  have hfinding : ∀ finding,
      (findingLines finding).Forall (FirstIn (fun c => c == '#' || c == '-')) := by
    intro finding
    have hheading : FirstIn (fun c => c == '#' || c == '-') (findingHeading finding) := by
      simp [FirstIn, findingHeading, toString]
    refine (List.forall_cons ..).mpr ⟨hheading, List.Forall.imp ?_ (firstIn_findingLines finding)⟩
    exact fun line hline => hline.mono fun c hc => by simp [hc]
  have hheading : FirstIn (fun c => c == '#' || c == '-') (groupHeading group) := by
    simp [FirstIn, groupHeading, toString]
  refine List.forall_append.mpr ⟨?_, forall_flatMap.mpr fun finding _ => hfinding finding⟩
  exact (List.forall_cons ..).mpr ⟨hheading, rfl⟩

variable {α : Type}

lemma firstIn_titleLines (report : Report α) :
    (titleLines report).tail.Forall (FirstIn (· == '*')) := by
  simp [titleLines, FirstIn, toString]

variable [Arithmetic α]

lemma firstIn_summaryLines (report : Report α) :
    (summaryLines report).tail.Forall (FirstIn (fun c => c == '*' || c == '-' || c == ' ')) := by
  simp [summaryLines, FirstIn, toString]

lemma firstIn_scoreLines (report : Report α) :
    (scoreLines report).tail.Forall (FirstIn (· == '|')) := by
  simp [scoreLines, scoreRow, FirstIn, toString]

lemma numbered_eq_mapIdx (number : Nat) (items : List String) :
    numbered number items = items.mapIdx fun i item => s!"{number + i}. {item}" := by
  induction items generalizing number with
  | nil => rfl
  | cons item items ih =>
    have hnext : ∀ i, number + 1 + i = number + (i + 1) := fun i => by omega
    rw [numbered, ih, List.mapIdx_cons]
    simp only [hnext, Nat.add_zero]

lemma head?_numberedLine (number : Nat) (item : String) :
    (s!"{number}. {item}").toList.head?.all Text.isAsciiDigit = true := by
  obtain ⟨c, rest, hdigits⟩ := List.exists_cons_of_ne_nil (@Nat.toDigits_ne_nil number 10)
  have hnumber : (toString number).toList = c :: rest := by
    rw [Nat.toString_eq_repr, Nat.toList_repr, hdigits]
  have hdigit : c ∈ Nat.toDigits 10 number := by
    rw [hdigits]
    exact List.mem_cons_self
  simp only [String.toList_append, List.append_assoc, hnumber]
  exact Decimal.isAsciiDigit_of_mem_toDigits hdigit

omit [Arithmetic α] in
lemma firstIn_recommendationLines (report : Report α) :
    (recommendationLines report).tail.Forall (FirstIn Text.isAsciiDigit) := by
  refine (List.forall_cons ..).mpr ⟨rfl, ?_⟩
  rw [numbered_eq_mapIdx, List.forall_iff_forall_mem]
  intro line hmem
  obtain ⟨i, _, rfl⟩ := List.mem_mapIdx.mp hmem
  exact head?_numberedLine _ _

omit [Arithmetic α] in
lemma headings_titleLines (report : Report α) :
    headings (titleLines report) = ["# Gap Analysis Report"] :=
  headings_cons_of_begins rfl rfl (firstIn_titleLines report)

lemma headings_summaryLines (report : Report α) :
    headings (summaryLines report) = ["## Executive Summary"] :=
  headings_cons_of_begins rfl rfl (firstIn_summaryLines report)

lemma headings_scoreLines (report : Report α) :
    headings (scoreLines report) = ["## Analyzer Scores"] :=
  headings_cons_of_begins rfl rfl (firstIn_scoreLines report)

lemma headings_findingLines (finding : Finding) :
    headings (findingLines finding) = [findingHeading finding] := by
  have hline : begins "#" (findingHeading finding) = true := by
    simp [begins, findingHeading, Text.startsWith, Text.after?, toString]
  exact headings_cons_of_begins hline rfl (firstIn_findingLines finding)

lemma headings_groupLines (group : FindingGroup) :
    headings (groupLines group) = groupHeadings group := by
  have hline : begins "#" (groupHeading group) = true := by
    simp [begins, groupHeading, Text.startsWith, Text.after?, toString]
  have htop : headings [groupHeading group, ""] = [groupHeading group] :=
    headings_cons_of_begins (p := fun _ => false) hline rfl rfl
  have hfindings : headings (group.findings.flatMap findingLines) =
      group.findings.map findingHeading := by
    rw [headings_flatMap, List.map_eq_flatMap]
    exact List.flatMap_congr fun finding _ => headings_findingLines finding
  have hlines : groupLines group =
      [groupHeading group, ""] ++ group.findings.flatMap findingLines := rfl
  rw [hlines, headings_append, htop, hfindings]
  rfl

/-- The lines of the issues below their title. -/
def issueBody (groups : List FindingGroup) : List String :=
  (issueLines groups).tail

lemma issueBody_eq (groups : List FindingGroup) :
    issueBody groups =
      "" :: (if groups.isEmpty then ["No issues found.", ""] else []) ++
        groups.flatMap groupLines := rfl

lemma headings_issueBody (groups : List FindingGroup) :
    headings (issueBody groups) = groups.flatMap groupHeadings := by
  have hnone : headings ("" :: if groups.isEmpty then ["No issues found.", ""] else []) = [] := by
    split <;> rfl
  rw [issueBody_eq, headings_append, hnone, List.nil_append, headings_flatMap]
  exact List.flatMap_congr fun group _ => headings_groupLines group

lemma headings_issueLines (groups : List FindingGroup) :
    headings (issueLines groups) = "## Issues by Category" :: groups.flatMap groupHeadings := by
  have htitle : headings (issueLines groups) =
      "## Issues by Category" :: headings (issueBody groups) := rfl
  rw [htitle, headings_issueBody]

omit [Arithmetic α] in
lemma headings_recommendationLines (report : Report α) :
    headings (recommendationLines report) = ["## Recommendations"] :=
  headings_cons_of_begins rfl rfl (firstIn_recommendationLines report)

theorem headings_lines (report : Report α) :
    headings (lines report) =
      ["# Gap Analysis Report", "## Executive Summary", "## Analyzer Scores",
        "## Issues by Category"] ++
      report.groups.flatMap groupHeadings ++ ["## Recommendations"] := by
  rw [lines]
  simp only [headings_append]
  rw [headings_titleLines, headings_summaryLines, headings_scoreLines, headings_issueLines,
    headings_recommendationLines]
  rfl

lemma begins_findingHeading (finding : Finding) :
    begins "#### " (findingHeading finding) = true ∧
      begins "### " (findingHeading finding) = false ∧
      begins "## " (findingHeading finding) = false := by
  simp [begins, findingHeading, Text.startsWith, Text.after?, toString]

lemma begins_groupHeading (group : FindingGroup) :
    begins "#### " (groupHeading group) = false ∧ begins "### " (groupHeading group) = true ∧
      begins "## " (groupHeading group) = false := by
  simp [begins, groupHeading, Text.startsWith, Text.after?, toString]

lemma marked_groupHeadings (group : FindingGroup) :
    marked "#### " (groupHeadings group) = group.findings.map findingHeading ∧
      marked "### " (groupHeadings group) = [groupHeading group] ∧
      marked "## " (groupHeadings group) = [] := by
  simp [marked, groupHeadings, begins_groupHeading, begins_findingHeading, List.filter_map,
    Function.comp_def]

/-- The headings of the fourth level are those of the findings, group by group. -/
theorem marked_findings (report : Report α) :
    marked "#### " (lines report) = (report.groups.flatMap (·.findings)).map findingHeading := by
  have hgroups : marked "#### " (report.groups.flatMap groupHeadings) =
      (report.groups.flatMap (·.findings)).map findingHeading := by
    rw [marked_flatMap, List.map_flatMap]
    exact List.flatMap_congr fun group _ => (marked_groupHeadings group).1
  rw [← marked_headings rfl, headings_lines, marked_append, marked_append, hgroups]
  exact List.append_nil _

/-- The headings of the third level are those of the groups. -/
theorem marked_groups (report : Report α) :
    marked "### " (lines report) = report.groups.map groupHeading := by
  have hgroups : marked "### " (report.groups.flatMap groupHeadings) =
      report.groups.map groupHeading := by
    rw [marked_flatMap, List.map_eq_flatMap]
    exact List.flatMap_congr fun group _ => (marked_groupHeadings group).2.1
  rw [← marked_headings rfl, headings_lines, marked_append, marked_append, hgroups]
  exact List.append_nil _

lemma marked_summaryLines (report : Report α) :
    marked "## " (titleLines report ++ summaryLines report) = ["## Executive Summary"] := by
  rw [← marked_headings rfl, headings_append, headings_titleLines, headings_summaryLines]
  rfl

lemma marked_scoreLines (report : Report α) :
    marked "## " (scoreLines report) = ["## Analyzer Scores"] := by
  rw [← marked_headings rfl, headings_scoreLines]
  rfl

lemma marked_issueBody (groups : List FindingGroup) : marked "## " (issueBody groups) = [] := by
  rw [← marked_headings rfl, headings_issueBody, marked_flatMap, List.flatMap_eq_nil_iff]
  exact fun group _ => (marked_groupHeadings group).2.2

lemma marked_issueLines (groups : List FindingGroup) :
    marked "## " (issueLines groups) = ["## Issues by Category"] := by
  have htitle : marked "## " (issueLines groups) =
      "## Issues by Category" :: marked "## " (issueBody groups) := rfl
  rw [htitle, marked_issueBody]

theorem sectionOf_scores (report : Report α) :
    sectionOf "## Analyzer Scores" (lines report) =
      ["", "| Analyzer | Score | Status | Issues | Time (ms) |",
        "|----------|-------|--------|--------|-----------|"] ++
      (report.analyzerResults.entries.map fun (name, result) => scoreRow name result) ++
      [""] := by
  have hlines : lines report = titleLines report ++ summaryLines report ++
      "## Analyzer Scores" :: (scoreLines report).tail ++
      (issueLines report.groups ++ recommendationLines report) := by
    rw [lines, List.append_assoc _ (issueLines report.groups)]
    rfl
  have hbody : marked "## " (scoreLines report).tail = [] :=
    marked_eq_nil (firstIn_scoreLines report) rfl rfl
  rw [hlines, sectionOf_append rfl _ hbody rfl]
  · rfl
  · rw [marked_summaryLines]
    decide

theorem sectionOf_issues (report : Report α) :
    sectionOf "## Issues by Category" (lines report) = issueBody report.groups := by
  have hlines : lines report = titleLines report ++ summaryLines report ++ scoreLines report ++
      "## Issues by Category" :: issueBody report.groups ++ recommendationLines report := rfl
  rw [hlines, sectionOf_append rfl _ (marked_issueBody report.groups) rfl]
  rw [marked_append, marked_summaryLines, marked_scoreLines]
  decide

theorem sectionOf_recommendations (report : Report α) :
    sectionOf "## Recommendations" (lines report) =
      "" :: report.recommendations.mapIdx fun i item => s!"{i + 1}. {item}" := by
  have hlines : lines report = titleLines report ++ summaryLines report ++ scoreLines report ++
      issueLines report.groups ++
      "## Recommendations" :: ("" :: numbered 1 report.recommendations) ++ [] := by
    rw [List.append_nil]
    rfl
  have hbody : marked "## " ("" :: numbered 1 report.recommendations) = [] :=
    marked_eq_nil (firstIn_recommendationLines report) rfl rfl
  rw [hlines, sectionOf_append rfl _ hbody rfl]
  · simp only [numbered_eq_mapIdx, Nat.add_comm]
  · rw [marked_append, marked_append, marked_summaryLines, marked_scoreLines, marked_issueLines]
    decide

/-- The issues are said to be none just when there is no group of them. -/
theorem mem_issueBody_iff (groups : List FindingGroup) :
    "No issues found." ∈ issueBody groups ↔ groups = [] := by
  have hgroups : "No issues found." ∉ groups.flatMap groupLines := by
    intro hmem
    obtain ⟨group, _, hline⟩ := List.mem_flatMap.mp hmem
    have hfirst := List.forall_iff_forall_mem.mp (firstIn_groupLines group) _ hline
    cases hfirst
  rw [issueBody_eq]
  cases groups with
  | nil => decide
  | cons group rest =>
    have hother : "No issues found." ≠ "" := by decide
    simpa [hother] using hgroups

end Markdown

end GapAudit
