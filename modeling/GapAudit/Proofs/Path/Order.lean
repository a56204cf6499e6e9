import Mathlib
import GapAudit.Proofs.Path.Components
import GapAudit.Proofs.Text.ByteOrder

/-!
# The order of paths

Paths are sorted by a key: absolute ones first, then component by component, points before names
(`isBefore_iff`). Sorting therefore puts paths with different keys in strictly increasing order
(`pairwise_sort`), and below one folder that is the order of the components by their bytes
(`bytes_lt_of_sortKey_lt`).
-/

namespace GapAudit.Path

open Text

/-- What a component counts for in the order of paths. -/
def componentKey (component : String) : ℕ ×ₗ List Char :=
  toLex (rank component, component.toList)

/-- What a path counts for in the order of paths. -/
def sortKey (path : String) : Bool ×ₗ List (ℕ ×ₗ List Char) :=
  toLex (!isAbsolute path, (components path).map componentKey)

lemma componentKey_injective : Function.Injective componentKey := by
  intro a b h
  exact String.toList_inj.mp (congrArg (fun key => (ofLex key).2) h)

lemma componentsBefore_iff (as bs : List String) :
    componentsBefore as bs = true ↔ as.map componentKey < bs.map componentKey := by
  induction as generalizing bs with
  | nil => cases bs <;> simp [componentsBefore]
  | cons a as ih =>
    cases bs with
    | nil => simp [componentsBefore]
    | cons b bs =>
      rw [componentsBefore, List.map_cons, List.map_cons, List.cons_lt_cons_iff, ← ih]
      by_cases hab : a = b
      · subst hab
        simp
      · have hkey : componentKey a ≠ componentKey b := fun h => hab (componentKey_injective h)
        have hbeq : (a == b) = false := beq_eq_false_iff_ne.mpr hab
        simp only [hbeq, hkey, false_and, or_false]
        simp only [componentKey, Prod.Lex.toLex_lt_toLex, String.lt_iff_toList_lt, Bool.or_eq_true,
          Bool.and_eq_true, decide_eq_true_eq, beq_iff_eq, Bool.false_eq_true, if_false]

/-- A path stands before another if its key is smaller. -/
theorem isBefore_iff (a b : String) : isBefore a b = true ↔ sortKey a < sortKey b := by
  rw [isBefore, sortKey, sortKey, Prod.Lex.toLex_lt_toLex]
  cases isAbsolute a <;> cases isAbsolute b <;> simp [componentsBefore_iff]

lemma components_eq_of_sortKey_eq {a b : String} (h : sortKey a = sortKey b) :
    components a = components b :=
  componentKey_injective.list_map (congrArg (fun key => (ofLex key).2) h)

lemma pairwise_le_sort (paths : List String) :
    (sort paths).Pairwise fun a b => sortKey a ≤ sortKey b := by
  have hle : ∀ a b, (!isBefore b a) = true ↔ sortKey a ≤ sortKey b := by
    intro a b
    rw [Bool.not_eq_true', ← Bool.not_eq_true, isBefore_iff, not_lt]
  have htrans : ∀ a b c, (!isBefore b a) = true → (!isBefore c b) = true →
      (!isBefore c a) = true :=
    fun a b c hab hbc => (hle a c).mpr (((hle a b).mp hab).trans ((hle b c).mp hbc))
  have htotal : ∀ a b, (!isBefore b a || !isBefore a b) = true := by
    intro a b
    rw [Bool.or_eq_true, hle, hle]
    exact le_total _ _
  have hmerge : (sort paths).Pairwise fun a b => (!isBefore b a) = true :=
    List.pairwise_mergeSort htrans htotal paths
  exact hmerge.imp fun hab => (hle _ _).mp hab

/-- Sorted paths with different keys are in strictly increasing order. -/
theorem pairwise_sort {paths : List String} (h : (paths.map sortKey).Nodup) :
    (sort paths).Pairwise fun a b => sortKey a < sortKey b := by
  have hnodup : ((sort paths).map sortKey).Nodup :=
    (((List.mergeSort_perm paths _).map sortKey).nodup_iff).mpr h
  have hne : (sort paths).Pairwise fun a b => sortKey a ≠ sortKey b := List.pairwise_map.mp hnodup
  exact (pairwise_le_sort paths).imp₂ (fun _ _ hab hne => lt_of_le_of_ne hab hne) hne

lemma rank_of_isSegment {name : String} (h : isSegment name = true) : rank name = 2 := by
  obtain ⟨hpoint, hpoints⟩ := ne_points_of_isSegment h
  simp [rank, hpoint, hpoints]

lemma bytes_lt_of_map_componentKey_lt {as bs : List String} (has : ∀ a ∈ as, isSegment a = true)
    (hbs : ∀ b ∈ bs, isSegment b = true) (h : as.map componentKey < bs.map componentKey) :
    as.map bytes < bs.map bytes := by
  induction as generalizing bs with
  | nil =>
    cases bs with
    | nil => exact absurd h (lt_irrefl _)
    | cons b bs => exact List.nil_lt_cons _ _
  | cons a as ih =>
    cases bs with
    | nil => exact absurd h (List.not_lt_nil _)
    | cons b bs =>
      rw [List.map_cons, List.map_cons, List.cons_lt_cons_iff] at h ⊢
      rcases h with hlt | ⟨heq, hrest⟩
      · have hnames : a < b := by
          simpa only [componentKey, Prod.Lex.toLex_lt_toLex, String.lt_iff_toList_lt,
            rank_of_isSegment (has a List.mem_cons_self),
            rank_of_isSegment (hbs b List.mem_cons_self), lt_self_iff_false, false_or,
            true_and] using hlt
        exact .inl (bytes_lt_of_lt hnames)
      · refine .inr ⟨congrArg bytes (componentKey_injective heq), ih ?_ ?_ hrest⟩
        · exact fun other hmem => has other (List.mem_cons_of_mem a hmem)
        · exact fun other hmem => hbs other (List.mem_cons_of_mem b hmem)

lemma append_lt_append_iff {β : Type} [LinearOrder β] (front as bs : List β) :
    front ++ as < front ++ bs ↔ as < bs := by
  induction front with
  | nil => rfl
  | cons c front ih => simp [ih]

/-- Names below one folder put paths in the order of the bytes of the components. -/
theorem bytes_lt_of_sortKey_lt {base : String} {as bs : List String}
    (hbase : isAbsolute base = true) (has : ∀ a ∈ as, isSegment a = true)
    (hbs : ∀ b ∈ bs, isSegment b = true)
    (h : sortKey (as.foldl join base) < sortKey (bs.foldl join base)) :
    (components (as.foldl join base)).map bytes < (components (bs.foldl join base)).map bytes := by
  rw [sortKey, sortKey, isAbsolute_foldl_join hbase, isAbsolute_foldl_join hbase,
    Prod.Lex.toLex_lt_toLex] at h
  rw [components_foldl_join hbase has, components_foldl_join hbase hbs] at h ⊢
  simp only [lt_self_iff_false, true_and, false_or, List.map_append, append_lt_append_iff] at h ⊢
  exact List.append_left_lt (bytes_lt_of_map_componentKey_lt has hbs h)

end GapAudit.Path
