import Mathlib
import GapAudit.Proofs.Keyed
import GapAudit.Proofs.Text.ByteOrder
import GapAudit.Report.Groups

/-!
# Groups of findings

Each category collects its findings in the given order (`mem_byCategory`), and both sorts are stable
(`filter_mergeSort`). The main statement is that the groups of a report are a stable, ordered
partition of its findings (`groups_partition`).
-/

namespace GapAudit

/-- A stable sort keeps the order among elements that may stand either way. -/
theorem filter_mergeSort {β : Type} {le : β → β → Bool}
    (trans : ∀ a b c, le a b → le b c → le a c) (total : ∀ a b, le a b || le b a)
    {p : β → Bool} (tied : ∀ a b, p a → p b → le a b) (xs : List β) :
    (xs.mergeSort le).filter p = xs.filter p := by
  have hsorted : (xs.filter p).Pairwise fun a b => le a b := by
    rw [List.pairwise_iff_forall_sublist]
    intro a b hab
    have ha := List.of_mem_filter (hab.subset List.mem_cons_self)
    have hb := List.of_mem_filter (hab.subset (List.mem_cons_of_mem _ List.mem_cons_self))
    exact tied a b ha hb
  have hsublist := List.sublist_mergeSort trans total hsorted List.filter_sublist
  have hfiltered := hsublist.filter p
  rw [List.filter_filter] at hfiltered
  simp only [Bool.and_self] at hfiltered
  have hlength := ((List.mergeSort_perm xs le).filter p).length_eq
  exact (hfiltered.eq_of_length hlength.symm).symm

/-- Stretches of a list by distinct keys are the whole list in another order. -/
lemma flatMap_filter_perm {β : Type} (key : β → String) (keys : List String) (xs : List β)
    (hnodup : keys.Nodup) (hkeys : ∀ x ∈ xs, key x ∈ keys) :
    (keys.flatMap fun k => xs.filter fun x => key x = k).Perm xs := by
  induction keys generalizing xs with
  | nil =>
    have hempty : xs = [] := by
      refine List.eq_nil_iff_forall_not_mem.mpr ?_
      intro x hx
      simpa using hkeys x hx
    rw [hempty]
    exact List.Perm.refl _
  | cons k rest ih =>
    obtain ⟨hk, hrest⟩ := List.nodup_cons.mp hnodup
    have hothers : (rest.flatMap fun k' => xs.filter fun x => key x = k') =
        rest.flatMap fun k' => (xs.filter fun x => !decide (key x = k)).filter
          fun x => key x = k' := by
      apply List.flatMap_congr
      intro k' hk'
      rw [List.filter_filter]
      apply List.filter_congr
      intro x _
      have hne : k' ≠ k := fun h => hk (h ▸ hk')
      by_cases hx : key x = k'
      · simp [hx, hne]
      · simp [hx]
    have htail := ih (xs.filter fun x => !decide (key x = k)) hrest (by
      intro x hx
      obtain ⟨hmem, hne⟩ := List.mem_filter.mp hx
      have hcons := List.mem_cons.mp (hkeys x hmem)
      exact hcons.resolve_left (by simpa using hne))
    rw [List.flatMap_cons, hothers]
    exact (htail.append_left _).trans (List.filter_append_perm _ xs)

def ofCategory (category : String) (findings : List Finding) : List Finding :=
  findings.filter fun finding => finding.2.category = category

/-- The collection with a finding more. -/
def collect (found : Keyed (List Finding)) (finding : Finding) : Keyed (List Finding) :=
  found.insert finding.2.category ((found.find? finding.2.category).getD [] ++ [finding])

lemma find?_collect (found : Keyed (List Finding)) (finding : Finding) (category : String) :
    (collect found finding).find? category =
      if finding.2.category = category then some ((found.find? category).getD [] ++ [finding])
      else found.find? category := by
  unfold collect
  by_cases h : finding.2.category = category
  · subst h
    rw [Keyed.find?_insert_self, if_pos rfl]
  · rw [Keyed.find?_insert_of_ne _ _ (Ne.symm h), if_neg h]

lemma find?_foldl_collect (findings : List Finding) (found : Keyed (List Finding))
    (category : String) :
    (findings.foldl collect found).find? category =
      if ofCategory category findings = [] then found.find? category
      else some ((found.find? category).getD [] ++ ofCategory category findings) := by
  induction findings generalizing found with
  | nil => rfl
  | cons finding rest ih =>
    rw [List.foldl_cons, ih, find?_collect]
    unfold ofCategory
    by_cases h : finding.2.category = category
    · rw [if_pos h, List.filter_cons_of_pos (by simpa using h)]
      by_cases hrest : rest.filter (fun finding => finding.2.category = category) = []
      · simp [hrest]
      · simp [hrest]
    · rw [if_neg h, List.filter_cons_of_neg (by simpa using h)]

/-- A category holds exactly its findings in their order, and only categories that occur have an
entry. -/
theorem mem_byCategory {findings : List Finding} {category : String} {found : List Finding} :
    (category, found) ∈ (byCategory findings).entries ↔
      found = ofCategory category findings ∧ found ≠ [] := by
  have hfind : (byCategory findings).find? category =
      if ofCategory category findings = [] then none else some (ofCategory category findings) :=
    find?_foldl_collect findings Keyed.empty category
  rw [Keyed.mem_entries_iff, hfind]
  by_cases h : ofCategory category findings = []
  · rw [if_pos h]
    constructor
    · intro hnone
      cases hnone
    · rintro ⟨rfl, hne⟩
      exact absurd h hne
  · rw [if_neg h]
    constructor
    · intro hsome
      cases hsome
      exact ⟨rfl, h⟩
    · rintro ⟨rfl, _⟩
      rfl

lemma keys_byCategory (findings : List Finding) (category : String) :
    category ∈ (byCategory findings).keys ↔
      ∃ finding ∈ findings, finding.2.category = category := by
  have hnonempty : ofCategory category findings ≠ [] ↔
      ∃ finding ∈ findings, finding.2.category = category := by
    unfold ofCategory
    simp [List.filter_eq_nil_iff]
  rw [← hnonempty]
  constructor
  · intro h
    obtain ⟨⟨_, found⟩, hmem, rfl⟩ := List.mem_map.mp h
    obtain ⟨rfl, hne⟩ := mem_byCategory.mp hmem
    exact hne
  · intro h
    exact List.mem_map.mpr ⟨(category, _), mem_byCategory.mpr ⟨rfl, h⟩, rfl⟩

lemma flatMap_byCategory_perm (findings : List Finding) :
    ((byCategory findings).entries.flatMap (·.2)).Perm findings := by
  have hentries : (byCategory findings).entries.flatMap (·.2) =
      (byCategory findings).keys.flatMap fun category => ofCategory category findings := by
    unfold Keyed.keys
    rw [List.flatMap_map]
    apply List.flatMap_congr
    intro ⟨category, found⟩ hmem
    exact (mem_byCategory.mp hmem).1
  rw [hentries]
  apply flatMap_filter_perm (fun finding : Finding => finding.2.category)
  · exact Keyed.nodup_keys _
  · intro finding hmem
    exact (keys_byCategory findings _).mpr ⟨finding, hmem, rfl⟩

namespace FindingGroup

/-- The worst severity among the findings of a group. -/
structure IsWorst (group : FindingGroup) (severity : Severity) : Prop where
  occurs : ∃ finding ∈ group.findings, finding.2.severity = severity
  bounds : ∀ finding ∈ group.findings, finding.2.severity.rank ≤ severity.rank

lemma rank_foldl_worse (findings : List Finding) (start : Severity) :
    let worst := findings.foldl (fun found finding => found.worse finding.2.severity) start
    start.rank ≤ worst.rank ∧ (∀ finding ∈ findings, finding.2.severity.rank ≤ worst.rank) ∧
      (worst = start ∨ ∃ finding ∈ findings, finding.2.severity = worst) := by
  induction findings generalizing start with
  | nil => simp
  | cons finding rest ih =>
    obtain ⟨hstart, hbounds, hoccurs⟩ := ih (start.worse finding.2.severity)
    rw [List.foldl_cons]
    have hworse : start.rank ≤ (start.worse finding.2.severity).rank ∧
        finding.2.severity.rank ≤ (start.worse finding.2.severity).rank ∧
        (start.worse finding.2.severity = start ∨
          start.worse finding.2.severity = finding.2.severity) := by
      unfold Severity.worse
      by_cases h : start.rank < finding.2.severity.rank
      · rw [if_pos h]
        exact ⟨h.le, le_rfl, .inr rfl⟩
      · rw [if_neg h]
        exact ⟨le_rfl, not_lt.mp h, .inl rfl⟩
    obtain ⟨hold, hnew, heither⟩ := hworse
    refine ⟨hold.trans hstart, ?_, ?_⟩
    · intro other hother
      rcases List.mem_cons.mp hother with rfl | hmem
      · exact hnew.trans hstart
      · exact hbounds other hmem
    · rcases hoccurs with heq | ⟨other, hmem, heq⟩
      · rcases heither with hstay | hmove
        · exact .inl (heq.trans hstay)
        · exact .inr ⟨finding, List.mem_cons_self, (heq.trans hmove).symm⟩
      · exact .inr ⟨other, List.mem_cons_of_mem _ hmem, heq⟩

lemma isWorst_worst {group : FindingGroup} (h : group.findings ≠ []) :
    group.IsWorst (worst group.findings) := by
  obtain ⟨_, hbounds, hoccurs⟩ := rank_foldl_worse group.findings .low
  refine ⟨?_, hbounds⟩
  rcases hoccurs with hlow | hfound
  · -- Nothing is below the least severity, so the first finding has it.
    obtain ⟨first, rest, hcons⟩ := List.exists_cons_of_ne_nil h
    have hfirst : first ∈ group.findings := hcons ▸ List.mem_cons_self
    have hrank := hbounds first hfirst
    rw [hlow] at hrank
    refine ⟨first, hfirst, ?_⟩
    unfold worst
    rw [hlow]
    cases hseverity : first.2.severity with
    | low => rfl
    | medium => simp [hseverity, Severity.rank] at hrank
    | high => simp [hseverity, Severity.rank] at hrank
    | critical => simp [hseverity, Severity.rank] at hrank
  · exact hfound

end FindingGroup

lemma Severity.eq_of_rank_eq {a b : Severity} (h : a.rank = b.rank) : a = b := by
  cases a <;> cases b <;> first | rfl | cases h

namespace FindingGroup

lemma mayPrecede_trans (a b c : Finding) (hab : mayPrecede a b) (hbc : mayPrecede b c) :
    mayPrecede a c := by
  simp only [mayPrecede, decide_eq_true_eq] at *
  exact hbc.trans hab

lemma mayPrecede_total (a b : Finding) : mayPrecede a b || mayPrecede b a := by
  simp only [mayPrecede, Bool.or_eq_true, decide_eq_true_eq]
  exact Nat.le_total _ _

lemma groupMayPrecede_trans (a b c : FindingGroup) (hab : groupMayPrecede a b)
    (hbc : groupMayPrecede b c) : groupMayPrecede a c := by
  simp only [groupMayPrecede, decide_eq_true_eq] at *
  exact hbc.trans hab

lemma groupMayPrecede_total (a b : FindingGroup) : groupMayPrecede a b || groupMayPrecede b a := by
  simp only [groupMayPrecede, Bool.or_eq_true, decide_eq_true_eq]
  exact Nat.le_total _ _

/-- The groups of findings in the order of their categories. -/
def byName (findings : List Finding) : List FindingGroup :=
  (byCategory findings).entries.map fun (category, found) => .ofFindings category found

lemma mem_byName {findings : List Finding} {group : FindingGroup} (h : group ∈ byName findings) :
    group.findings = (ofCategory group.category findings).mergeSort mayPrecede ∧
      ofCategory group.category findings ≠ [] := by
  obtain ⟨⟨category, found⟩, hmem, rfl⟩ := List.mem_map.mp h
  obtain ⟨rfl, hne⟩ := mem_byCategory.mp hmem
  exact ⟨rfl, hne⟩

lemma findings_byName_perm (findings : List Finding) :
    ((byName findings).flatMap (·.findings)).Perm findings := by
  unfold byName
  rw [List.flatMap_map]
  refine List.Perm.trans ?_ (flatMap_byCategory_perm findings)
  apply List.Perm.flatMap_left
  intro entry _
  exact List.mergeSort_perm _ _

lemma categories_byName (findings : List Finding) :
    (byName findings).map (·.category) = (byCategory findings).keys := by
  unfold byName Keyed.keys
  rw [List.map_map]
  rfl

/-- Groups sorted by their worst findings: equally bad ones stay in the order of their
categories. -/
lemma pairwise_mergeSort_byName (findings : List Finding) :
    ((byName findings).mergeSort groupMayPrecede).Pairwise fun a b =>
      (worst b.findings).rank < (worst a.findings).rank ∨
        worst a.findings = worst b.findings ∧ a.category < b.category := by
  have hsorted := List.pairwise_mergeSort groupMayPrecede_trans groupMayPrecede_total
    (byName findings)
  have hnames : (byName findings).Pairwise fun a b => a.category < b.category := by
    have hkeys : ((byName findings).map (·.category)).Pairwise (· < ·) := by
      rw [categories_byName]
      exact List.pairwise_map.mpr (byCategory findings).sorted
    exact List.pairwise_map.mp hkeys
  rw [List.pairwise_iff_forall_sublist]
  intro a b hab
  have hle : (worst b.findings).rank ≤ (worst a.findings).rank := by
    have hpair := List.pairwise_iff_forall_sublist.mp hsorted hab
    simpa [groupMayPrecede] using hpair
  rcases hle.lt_or_eq with hlt | heq
  · exact .inl hlt
  · right
    -- Two equally bad groups stand among those as bad as the first, whose order the sort keeps.
    let tied (group : FindingGroup) : Bool :=
      (worst group.findings).rank = (worst a.findings).rank
    have hfilter := filter_mergeSort groupMayPrecede_trans groupMayPrecede_total
      (p := tied) (by
        intro x y hx hy
        simp only [tied, decide_eq_true_eq] at hx hy
        simp [groupMayPrecede, hx, hy]) (byName findings)
    have hpair : [a, b].Sublist (byName findings) := by
      have hkept := hab.filter tied
      rw [hfilter, List.filter_eq_self.mpr (by simp [tied, heq])] at hkept
      exact hkept.trans List.filter_sublist
    exact ⟨Severity.eq_of_rank_eq heq.symm, List.pairwise_iff_forall_sublist.mp hnames hpair⟩

end FindingGroup

namespace Report

open FindingGroup

variable {α : Type}

lemma groups_perm (report : Report α) :
    report.groups.Perm (byName report.findings) :=
  List.mergeSort_perm _ _

/-- The findings in the groups of a report are the findings of the report. -/
lemma groups_findings_perm (report : Report α) :
    (report.groups.flatMap (·.findings)).Perm report.findings :=
  (report.groups_perm.flatMap_right _).trans (findings_byName_perm report.findings)

lemma exists_finding_of_mem_groups {report : Report α} {group : FindingGroup}
    (h : group ∈ report.groups) :
    ∃ finding ∈ report.findings, finding.2.category = group.category := by
  obtain ⟨_, hsome⟩ := mem_byName (report.groups_perm.mem_iff.mp h)
  obtain ⟨finding, hmem⟩ := List.exists_mem_of_ne_nil _ hsome
  obtain ⟨hfinding, hcategory⟩ := List.mem_filter.mp hmem
  exact ⟨finding, hfinding, by simpa using hcategory⟩

lemma mem_findings_of_mem_group {report : Report α} {group : FindingGroup}
    (hgroup : group ∈ report.groups) {finding : Finding} (h : finding ∈ group.findings) :
    finding ∈ report.findings :=
  report.groups_findings_perm.mem_iff.mp (List.mem_flatMap.mpr ⟨group, hgroup, h⟩)

lemma groups_eq_nil_iff (report : Report α) :
    report.groups = [] ↔ report.findings = [] := by
  constructor
  · intro hnone
    have hperm := report.groups_findings_perm
    rw [hnone] at hperm
    exact hperm.nil_eq.symm
  · intro hnone
    refine List.eq_nil_iff_forall_not_mem.mpr fun group hmem => ?_
    obtain ⟨finding, hfinding, _⟩ := exists_finding_of_mem_groups hmem
    rw [hnone] at hfinding
    cases hfinding

end Report

/-- Groups that are a stable, ordered partition of findings. -/
structure FindingGroup.Partition (groups : List FindingGroup) (findings : List Finding) :
    Prop where
  categories_nodup : (groups.map (·.category)).Nodup
  mem_categories : ∀ category, category ∈ groups.map (·.category) ↔
    ∃ finding ∈ findings, finding.2.category = category
  perm : (groups.flatMap (·.findings)).Perm findings
  own_category : ∀ group ∈ groups, ∀ finding ∈ group.findings,
    finding.2.category = group.category
  nonempty : ∀ group ∈ groups, group.findings ≠ []
  worst_first : ∀ group ∈ groups, group.findings.Pairwise fun a b =>
    b.2.severity.rank ≤ a.2.severity.rank
  stable : ∀ group ∈ groups, ∀ severity,
    group.findings.filter (fun finding => finding.2.severity = severity) =
      findings.filter fun finding =>
        finding.2.category = group.category ∧ finding.2.severity = severity
  ordered : groups.Pairwise fun a b => ∃ worst worst', a.IsWorst worst ∧ b.IsWorst worst' ∧
    (worst'.rank < worst.rank ∨
      worst = worst' ∧ Text.bytes a.category < Text.bytes b.category)

open FindingGroup in
/-- The groups of a report are a stable, ordered partition of its findings. -/
theorem Report.groups_partition {α : Type} (report : Report α) :
    Partition report.groups report.findings := by
  have hperm : report.groups.Perm (byName report.findings) := List.mergeSort_perm _ _
  have hgroup : ∀ group ∈ report.groups,
      group.findings = (ofCategory group.category report.findings).mergeSort mayPrecede ∧
        ofCategory group.category report.findings ≠ [] :=
    fun group hmem => mem_byName (hperm.mem_iff.mp hmem)
  have hcategories : (report.groups.map (·.category)).Perm (byCategory report.findings).keys := by
    rw [← categories_byName]
    exact hperm.map _
  have hnonempty : ∀ group ∈ report.groups, group.findings ≠ [] := by
    intro group hmem
    obtain ⟨heq, hne⟩ := hgroup group hmem
    intro hnil
    rw [heq] at hnil
    have hperm := List.mergeSort_perm (ofCategory group.category report.findings) mayPrecede
    rw [hnil] at hperm
    exact hne hperm.nil_eq.symm
  constructor
  case categories_nodup => exact hcategories.nodup_iff.mpr (Keyed.nodup_keys _)
  case mem_categories =>
    intro category
    rw [hcategories.mem_iff]
    exact keys_byCategory report.findings category
  case perm => exact (hperm.flatMap_right _).trans (findings_byName_perm report.findings)
  case own_category =>
    intro group hmem finding hfinding
    rw [(hgroup group hmem).1] at hfinding
    have hof := List.of_mem_filter (List.mem_mergeSort.mp hfinding)
    simpa using hof
  case nonempty => exact hnonempty
  case worst_first =>
    intro group hmem
    rw [(hgroup group hmem).1]
    have hsorted := List.pairwise_mergeSort mayPrecede_trans mayPrecede_total
      (ofCategory group.category report.findings)
    exact hsorted.imp fun hab => by simpa [mayPrecede] using hab
  case stable =>
    intro group hmem severity
    have hfilter := filter_mergeSort mayPrecede_trans mayPrecede_total
      (p := fun finding => finding.2.severity = severity) (by
        intro a b ha hb
        simp only [decide_eq_true_eq] at ha hb
        simp [mayPrecede, ha, hb]) (ofCategory group.category report.findings)
    rw [(hgroup group hmem).1]
    refine hfilter.trans ?_
    unfold ofCategory
    rw [List.filter_filter]
    apply List.filter_congr
    intro finding _
    rw [Bool.decide_and, Bool.and_comm]
  case ordered =>
    have hordered := pairwise_mergeSort_byName report.findings
    refine List.Pairwise.imp_of_mem ?_ hordered
    intro a b ha hb hab
    refine ⟨_, _, isWorst_worst (hnonempty a ha), isWorst_worst (hnonempty b hb), ?_⟩
    exact hab.imp id fun ⟨hworst, hname⟩ => ⟨hworst, Text.bytes_lt_of_lt hname⟩

end GapAudit
