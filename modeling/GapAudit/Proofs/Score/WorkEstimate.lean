import GapAudit.Proofs.Score.Mean

/-!
# The estimate of the remaining work

Over rational numbers the weighted total of a histogram gains the weight of every gap that is
recorded (`total_record`), and the estimate is monotone in the total (`place_ofTotal_mono`). So an
estimate never comes down when gaps are added (`place_le_place_append`), it is nothing only where
there is no gap, and a worse gap in place of a milder one does not lower it
(`ofHistogram_exact`).
-/

namespace GapAudit

namespace Severity

lemma mem_all (severity : Severity) : severity ∈ all := by
  cases severity <;> decide

end Severity

namespace Histogram

/-- The histogram with one gap fewer. -/
def discard (h : Histogram) : Severity → Histogram
  | .critical => { h with critical := h.critical - 1 }
  | .high => { h with high := h.high - 1 }
  | .medium => { h with medium := h.medium - 1 }
  | .low => { h with low := h.low - 1 }

lemma record_discard {h : Histogram} {severity : Severity} (recorded : 0 < h.count severity) :
    (h.discard severity).record severity = h := by
  have hback : h.count severity - 1 + 1 = h.count severity := Nat.sub_add_cancel recorded
  cases severity <;> simp only [count] at hback <;> simp only [discard, record, hback]

lemma total_eq_zero_iff (h : Histogram) : h.total = 0 ↔ ∀ severity, h.count severity = 0 := by
  constructor
  · intro hzero severity
    unfold total at hzero
    cases severity <;> simp only [count] <;> omega
  · intro hzero
    have heq : h = {} := ext_count fun severity => by
      rw [hzero severity]
      cases severity <;> rfl
    rw [heq]
    rfl

end Histogram

namespace WorkWeights

variable (w : WorkWeights ℚ) (h : Histogram)

lemma total_eq :
    w.total h = (Severity.all.map fun severity => (h.count severity : ℚ) * w.weight severity).sum :=
  Score.sum_eq _

/-- Recording a gap adds its weight to the total. -/
theorem total_record (severity : Severity) :
    w.total (h.record severity) = w.total h + w.weight severity := by
  rw [total_eq, total_eq]
  simp only [Severity.all, List.map_cons, List.map_nil, List.sum_cons, List.sum_nil,
    Histogram.count_record]
  cases severity <;> simp only [reduceCtorEq, if_true, if_false] <;> push_cast <;> ring

variable {w} {h}

lemma total_le_total_record (nonneg : ∀ severity, 0 ≤ w.weight severity) (severity : Severity) :
    w.total h ≤ w.total (h.record severity) := by
  rw [total_record]
  exact le_add_of_nonneg_right (nonneg severity)

/-- A gap of a heavier severity in place of a recorded one does not lower the total. -/
lemma total_le_total_replace {mild severe : Severity} (recorded : 0 < h.count mild)
    (heavier : w.weight mild ≤ w.weight severe) :
    w.total h ≤ w.total ((h.discard mild).record severe) := by
  have htotal : w.total h = w.total (h.discard mild) + w.weight mild := by
    rw [← total_record, Histogram.record_discard recorded]
  rw [total_record, htotal]
  linarith

lemma total_nonpos_iff (positive : ∀ severity, 0 < w.weight severity) :
    w.total h ≤ 0 ↔ h.total = 0 := by
  have hterm : ∀ x ∈ Severity.all.map fun severity =>
      (h.count severity : ℚ) * w.weight severity, 0 ≤ x := by
    intro x hx
    obtain ⟨severity, -, rfl⟩ := List.mem_map.mp hx
    exact mul_nonneg (Nat.cast_nonneg _) (positive severity).le
  rw [total_eq, Histogram.total_eq_zero_iff]
  constructor
  · intro hle severity
    have hpart : (h.count severity : ℚ) * w.weight severity ≤ 0 :=
      (List.single_le_sum hterm _ (List.mem_map_of_mem (Severity.mem_all severity))).trans hle
    have hcount : (h.count severity : ℚ) ≤ 0 := nonpos_of_mul_nonpos_left hpart (positive severity)
    exact Nat.le_zero.mp (by exact_mod_cast hcount)
  · intro hzero
    simp [hzero]

/-- Weights that grow with the severity. -/
def Graded (w : WorkWeights ℚ) : Prop :=
  w.low ≤ w.medium ∧ w.medium ≤ w.high ∧ w.high ≤ w.critical

lemma Graded.weight_le_weight (graded : w.Graded) {mild severe : Severity}
    (worse : mild.rank ≤ severe.rank) : w.weight mild ≤ w.weight severe := by
  obtain ⟨hlow, hmedium, hhigh⟩ := graded
  cases mild <;> cases severe <;> simp only [weight] <;>
    first
    | linarith
    | exact absurd worse (by decide)

end WorkWeights

namespace WorkEstimate

/-- The labels of the estimates, the shortest time first. -/
def labels : List String :=
  ["No work remaining", "1-2 days", "3-5 days", "1-2 weeks", "2-4 weeks", "1+ months"]

/-- The place of an estimate's label among all of them. -/
def place (estimate : WorkEstimate) : ℕ :=
  labels.idxOf estimate.label

lemma label_eq_none_iff (estimate : WorkEstimate) :
    estimate.label = "No work remaining" ↔ estimate = .nothing := by
  cases estimate <;> decide

lemma ofTotal_eq (total : ℚ) :
    ofTotal total =
      if total ≤ 0 then .nothing
      else if total < 5 then .days
      else if total < 15 then .severalDays
      else if total < 30 then .weeks
      else if total < 60 then .severalWeeks
      else .months := by
  unfold ofTotal
  simp only [Arithmetic.le, Arithmetic.lt, decide_eq_true_eq]

lemma ofTotal_eq_nothing_iff (total : ℚ) : ofTotal total = .nothing ↔ total ≤ 0 := by
  rw [ofTotal_eq]
  by_cases hclean : total ≤ 0
  · rw [if_pos hclean, iff_true_right hclean]
  · rw [if_neg hclean, iff_false_right hclean]
    split_ifs <;> decide

lemma place_ofTotal (total : ℚ) :
    (ofTotal total).place =
      if total ≤ 0 then 0
      else if total < 5 then 1
      else if total < 15 then 2
      else if total < 30 then 3
      else if total < 60 then 4
      else 5 := by
  rw [ofTotal_eq]
  simp only [apply_ite place]
  rfl

/-- A tier in front of later ones keeps them monotone. -/
lemma monotone_tier {n : ℕ} {below : ℚ → Prop} [DecidablePred below] {later : ℚ → ℕ}
    (hbelow : Antitone below) (hlater : Monotone later) (hn : ∀ total, n ≤ later total) :
    Monotone fun total => if below total then n else later total := by
  intro x y hxy
  show (if below x then n else later x) ≤ if below y then n else later y
  by_cases hy : below y
  · rw [if_pos hy, if_pos (hbelow hxy hy)]
  · rw [if_neg hy]
    by_cases hx : below x
    · rw [if_pos hx]
      exact hn y
    · rw [if_neg hx]
      exact hlater hxy

theorem place_ofTotal_mono : Monotone fun total : ℚ => (ofTotal total).place := by
  have hbelow : ∀ limit : ℚ, Antitone fun total : ℚ => total < limit :=
    fun limit x y hxy hy => hxy.trans_lt hy
  have hclean : Antitone fun total : ℚ => total ≤ 0 := fun x y hxy hy => hxy.trans hy
  simp only [place_ofTotal]
  refine monotone_tier hclean (monotone_tier (hbelow 5) (monotone_tier (hbelow 15)
    (monotone_tier (hbelow 30) (monotone_tier (hbelow 60) monotone_const ?_) ?_) ?_) ?_) ?_
  all_goals
    intro total
    repeat' split
    all_goals decide

variable {w : WorkWeights ℚ} {h : Histogram}

lemma place_le_place_record (nonneg : ∀ severity, 0 ≤ w.weight severity) (severity : Severity) :
    (ofHistogram h w).place ≤ (ofHistogram (h.record severity) w).place :=
  place_ofTotal_mono (WorkWeights.total_le_total_record nonneg severity)

/-- More gaps never bring the estimate of a list of gaps down. -/
theorem place_le_place_append (nonneg : ∀ severity, 0 ≤ w.weight severity) (gaps more : List Gap) :
    (ofHistogram (.ofGaps gaps) w).place ≤ (ofHistogram (.ofGaps (gaps ++ more)) w).place := by
  induction more using List.reverseRecOn with
  | nil => rw [List.append_nil]
  | append_singleton rest gap ih =>
    have hrecord : Histogram.ofGaps (gaps ++ (rest ++ [gap])) =
        (Histogram.ofGaps (gaps ++ rest)).record gap.severity := by
      rw [← List.append_assoc, Histogram.ofGaps, List.foldl_append]
      rfl
    rw [hrecord]
    exact ih.trans (place_le_place_record nonneg gap.severity)

lemma ofHistogram_eq_nothing_iff (positive : ∀ severity, 0 < w.weight severity) :
    (ofHistogram h w).label = "No work remaining" ↔ h.total = 0 := by
  rw [label_eq_none_iff, ofHistogram, ofTotal_eq_nothing_iff,
    WorkWeights.total_nonpos_iff positive]

lemma place_le_place_replace (graded : w.Graded) {mild severe : Severity}
    (recorded : 0 < h.count mild) (worse : mild.rank < severe.rank) :
    (ofHistogram h w).place ≤ (ofHistogram ((h.discard mild).record severe) w).place :=
  place_ofTotal_mono
    (WorkWeights.total_le_total_replace recorded (graded.weight_le_weight worse.le))

/-- The estimate over exact weights: one more gap never moves it to an earlier label, and neither
does a gap of a higher severity in place of a recorded one; it says that no work remains just where
there is no gap; and a recorded gap counts once, under its own severity. -/
theorem ofHistogram_exact (w : WorkWeights ℚ) (h : Histogram) :
    ((∀ severity, 0 ≤ w.weight severity) →
      ∀ severity, (ofHistogram h w).place ≤ (ofHistogram (h.record severity) w).place) ∧
    ((∀ severity, 0 < w.weight severity) →
      ((ofHistogram h w).label = "No work remaining" ↔ h.total = 0)) ∧
    (w.Graded → ∀ mild severe : Severity, 0 < h.count mild → mild.rank < severe.rank →
      (ofHistogram h w).place ≤ (ofHistogram ((h.discard mild).record severe) w).place) ∧
    ∀ severity,
      (h.record severity).count severity = h.count severity + 1 ∧
      (∀ other, other ≠ severity → (h.record severity).count other = h.count other) ∧
      (h.record severity).total = h.total + 1 := by
  refine ⟨place_le_place_record, ofHistogram_eq_nothing_iff, ?_, fun severity => ⟨?_, ?_, ?_⟩⟩
  · intro graded mild severe
    exact place_le_place_replace graded
  · rw [Histogram.count_record, if_pos rfl]
  · intro other hother
    rw [Histogram.count_record, if_neg hother.symm, Nat.add_zero]
  · exact h.total_record severity

theorem ofHistogram_exact_standard :
    let w : WorkWeights ℚ := .standard
    let h : Histogram := ⟨0, 2, 0, 1⟩
    (∀ severity, 0 < w.weight severity) ∧ w.Graded ∧
      (ofHistogram h w).label = "1-2 days" ∧
      (ofHistogram (h.record .low) w).label = "3-5 days" ∧
      (ofHistogram h w).place ≤ (ofHistogram (h.record .low) w).place ∧
      ((ofHistogram h w).label = "No work remaining" ↔ h.total = 0) ∧
      (ofHistogram h w).place ≤ (ofHistogram ((h.discard .low).record .critical) w).place ∧
      (h.record .low).total = h.total + 1 := by
  intro w h
  have hpositive : ∀ severity, 0 < w.weight severity := by
    intro severity
    cases severity <;> decide +kernel
  have hgraded : w.Graded := by
    refine ⟨?_, ?_, ?_⟩ <;> decide +kernel
  obtain ⟨hrecord, hnone, hreplace, hcounts⟩ := ofHistogram_exact w h
  exact ⟨hpositive, hgraded, by decide +kernel, by decide +kernel,
    hrecord (fun s => (hpositive s).le) .low, hnone hpositive,
    hreplace hgraded .low .critical (by decide) (by decide),
    (hcounts .low).2.2⟩

end WorkEstimate

end GapAudit
