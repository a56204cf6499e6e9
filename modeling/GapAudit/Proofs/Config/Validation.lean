import Mathlib
import GapAudit.Config.Validation
import GapAudit.Proofs.Decimal.Order

/-!
# Which configurations are valid

The validation of a configuration is a list of checks in order (`validate_eq`), and several of them
go through a list in order themselves: each stops at the first complaint (`firstComplaint`). The
main statement says what every check asks for and what it reports, and that a configuration is valid
just if all checks pass, with the report of the first check that does not pass otherwise
(`validate_exact`).
-/

namespace GapAudit

section

variable {α ε : Type} (complaint? : List α → α → Option ε)

/-- The first complaint about an entry of a list, which may depend on the entries before it. -/
def firstComplaint (passed : List α) : List α → Except ε Unit
  | [] => .ok ()
  | entry :: rest =>
    match complaint? passed entry with
    | some e => .error e
    | none => firstComplaint (passed ++ [entry]) rest

/-- Whether there is no complaint about any entry of a list behind other entries. -/
def AllPass (passed entries : List α) : Prop :=
  ∀ before entry after, entries = before ++ entry :: after →
    complaint? (passed ++ before) entry = none

variable {complaint?}

lemma allPass_nil (passed : List α) : AllPass complaint? passed [] := by
  intro before entry after heq
  simp at heq

lemma allPass_cons_iff {passed entries : List α} {entry : α} :
    AllPass complaint? passed (entry :: entries) ↔
      complaint? passed entry = none ∧ AllPass complaint? (passed ++ [entry]) entries := by
  constructor
  · intro h
    refine ⟨by simpa using h [] entry entries rfl, fun before other after heq => ?_⟩
    have hlater := h (entry :: before) other after (by rw [heq]; rfl)
    rwa [List.append_assoc, List.singleton_append]
  · rintro ⟨hentry, hrest⟩ before other after heq
    cases before with
    | nil =>
      obtain ⟨rfl, -⟩ := List.cons.inj heq
      simpa using hentry
    | cons first before =>
      obtain ⟨rfl, htail⟩ := List.cons.inj heq
      have hlater := hrest before other after htail
      rwa [List.append_assoc, List.singleton_append] at hlater

lemma firstComplaint_eq_ok_iff (passed entries : List α) :
    firstComplaint complaint? passed entries = .ok () ↔ AllPass complaint? passed entries := by
  induction entries generalizing passed with
  | nil => exact iff_of_true rfl (allPass_nil passed)
  | cons entry rest ih =>
    rw [firstComplaint, allPass_cons_iff, ← ih]
    cases complaint? passed entry with
    | none => simp
    | some e => simp

lemma firstComplaint_eq_error_iff (passed entries : List α) (e : ε) :
    firstComplaint complaint? passed entries = .error e ↔
      ∃ before entry after, entries = before ++ entry :: after ∧
        AllPass complaint? passed before ∧ complaint? (passed ++ before) entry = some e := by
  induction entries generalizing passed with
  | nil => simp [firstComplaint]
  | cons entry rest ih =>
    rw [firstComplaint]
    constructor
    · intro h
      cases hentry : complaint? passed entry with
      | some e' =>
        rw [hentry] at h
        obtain rfl := Except.error.inj h
        exact ⟨[], entry, rest, rfl, allPass_nil passed, by simpa using hentry⟩
      | none =>
        rw [hentry] at h
        obtain ⟨before, other, after, rfl, hbefore, hother⟩ := (ih _).mp h
        refine ⟨entry :: before, other, after, rfl, allPass_cons_iff.mpr ⟨hentry, hbefore⟩, ?_⟩
        rwa [List.append_assoc, List.singleton_append] at hother
    · rintro ⟨before, other, after, heq, hbefore, hother⟩
      cases before with
      | nil =>
        obtain ⟨rfl, rfl⟩ := List.cons.inj heq
        rw [List.append_nil] at hother
        rw [hother]
      | cons first before =>
        obtain ⟨rfl, rfl⟩ := List.cons.inj heq
        obtain ⟨hentry, hrest⟩ := allPass_cons_iff.mp hbefore
        rw [hentry]
        refine (ih _).mpr ⟨before, other, after, rfl, hrest, ?_⟩
        rwa [List.append_assoc, List.singleton_append]

/-- Where a complaint depends on the entry alone, every entry must be fine. -/
lemma allPass_iff_forall {complaint? : α → Option ε} {passed entries : List α} :
    AllPass (fun _ => complaint?) passed entries ↔ ∀ entry ∈ entries, complaint? entry = none := by
  constructor
  · intro h entry hmem
    obtain ⟨before, after, heq⟩ := List.append_of_mem hmem
    exact h before entry after heq
  · rintro h before entry after rfl
    exact h entry (by simp)

end

namespace Config

open Text

/-- What is wrong with the name of an analyzer. -/
def analyzerComplaint? (name : String) : Option ConfigError :=
  if name ∈ analyzerNames then none else some (.unknownAnalyzer name)

lemma checkAnalyzers_eq (passed names : List String) :
    checkAnalyzers names = firstComplaint (fun _ => analyzerComplaint?) passed names := by
  unfold checkAnalyzers
  induction names generalizing passed with
  | nil => rfl
  | cons name rest ih =>
    rw [firstComplaint, List.find?_cons, analyzerComplaint?]
    by_cases hknown : name ∈ analyzerNames
    · rw [if_pos hknown, ← ih]
      simp [hknown]
    · rw [if_neg hknown]
      simp [hknown]

/-- What is wrong with a feature behind others: its name is blank, or one of theirs. -/
def featureComplaint? (passed : List Feature) (feature : Feature) : Option ConfigError :=
  if allBlank feature.name.toList then some .blankFeature
  else if lowercase feature.name ∈ passed.map (lowercase ·.name) then
    some (.duplicateFeature feature.name)
  else none

lemma checkFeatures_eq (passed features : List Feature) :
    checkFeatures (passed.map (lowercase ·.name)).reverse features =
      firstComplaint featureComplaint? passed features := by
  induction features generalizing passed with
  | nil => rfl
  | cons feature rest ih =>
    rw [checkFeatures, firstComplaint, featureComplaint?]
    by_cases hblank : allBlank feature.name.toList = true
    · simp only [hblank, if_true]
    · by_cases hseen : lowercase feature.name ∈ passed.map (lowercase ·.name)
      · simp only [hblank, hseen, if_true, List.contains_reverse, List.contains_iff_mem]
        simp
      · simp only [hblank, hseen, if_false, List.contains_reverse, List.contains_iff_mem, ← ih]
        simp

lemma checkFeatures_nil_eq (features : List Feature) :
    checkFeatures [] features = firstComplaint featureComplaint? [] features :=
  checkFeatures_eq [] features

/-- What is wrong with a pattern. -/
def patternComplaint? (pattern : String) : Option ConfigError :=
  match Glob.read pattern with
  | .error cause => some (.invalidPattern pattern cause)
  | .ok _ => none

lemma checkPatterns_eq (passed patterns : List String) :
    checkPatterns patterns = firstComplaint (fun _ => patternComplaint?) passed patterns := by
  induction patterns generalizing passed with
  | nil => rfl
  | cons pattern rest ih =>
    rw [checkPatterns, firstComplaint, ih (passed ++ [pattern]), patternComplaint?]
    cases Glob.read pattern with
    | error cause => rfl
    | ok tokens => rfl

/-! ### Checks -/

/-- The checks of a configuration. -/
inductive Check where
  | analyzers
  | command
  | features
  | patterns
  | threshold
  deriving DecidableEq

/-- A name without a character that is not blank. -/
def IsBlankName (name : String) : Prop :=
  ∀ c ∈ name.toList, isBlank c = true

/-- Whether features have names that are not blank and that differ also in lower case. -/
structure AreTellable (features : List Feature) : Prop where
  named : ∀ feature ∈ features, ¬IsBlankName feature.name
  distinct : (features.map (lowercase ·.name)).Nodup

lemma areTellable_nil : AreTellable [] :=
  ⟨by simp, List.nodup_nil⟩

lemma areTellable_cons_iff {feature : Feature} {rest : List Feature} :
    AreTellable (feature :: rest) ↔ ¬IsBlankName feature.name ∧
      lowercase feature.name ∉ rest.map (lowercase ·.name) ∧ AreTellable rest := by
  constructor
  · rintro ⟨hnamed, hdistinct⟩
    obtain ⟨hfeature, hrest⟩ := List.forall_mem_cons.mp hnamed
    obtain ⟨hnew, hdistinct⟩ := List.nodup_cons.mp hdistinct
    exact ⟨hfeature, hnew, hrest, hdistinct⟩
  · rintro ⟨hfeature, hnew, hrest, hdistinct⟩
    exact ⟨List.forall_mem_cons.mpr ⟨hfeature, hrest⟩, List.nodup_cons.mpr ⟨hnew, hdistinct⟩⟩

/-- Whether a text is a pattern for paths. -/
def IsPattern (pattern : String) : Prop :=
  ∃ tokens, Glob.read pattern = .ok tokens

variable (config : Config)

namespace Check

def all : List Check :=
  [.analyzers, .command, .features, .patterns, .threshold]

def run : Check → Except ConfigError Unit
  | analyzers => checkAnalyzers config.analyzers
  | command =>
    if config.typecheck.enabled && config.typecheck.command.isEmpty then .error .emptyCommand
    else .ok ()
  | features => checkFeatures [] config.features
  | patterns => checkPatterns config.excludedPaths
  | threshold =>
    let threshold := config.scoring.readinessThreshold
    if 0 ≤ threshold && threshold ≤ 100 then .ok () else .error (.thresholdOutOfRange threshold)

/-- What a check asks for. A threshold must be a number, which infinities are not. -/
def Passes : Check → Prop
  | analyzers => ∀ name ∈ config.analyzers, name ∈ analyzerNames
  | command => config.typecheck.enabled = false ∨ config.typecheck.command ≠ []
  | features => AreTellable config.features
  | patterns => ∀ pattern ∈ config.excludedPaths, IsPattern pattern
  | threshold => ∃ value ∈ Set.Icc (0 : ℚ) 100,
      Decimal.value? config.scoring.readinessThreshold = some value

/-- What a check that does not pass reports. In a list that is the first entry because of which it
does not pass. -/
inductive Reports : Check → ConfigError → Prop
  | unknownAnalyzer {before after : List String} {name : String}
      (split : config.analyzers = before ++ name :: after)
      (known : ∀ earlier ∈ before, earlier ∈ analyzerNames) (unknown : name ∉ analyzerNames) :
      Reports analyzers (.unknownAnalyzer name)
  | emptyCommand (enabled : config.typecheck.enabled = true)
      (empty : config.typecheck.command = []) : Reports command .emptyCommand
  | blankFeature {before after : List Feature} {feature : Feature}
      (split : config.features = before ++ feature :: after) (tellable : AreTellable before)
      (blank : IsBlankName feature.name) : Reports features .blankFeature
  | duplicateFeature {before after : List Feature} {feature : Feature}
      (split : config.features = before ++ feature :: after) (tellable : AreTellable before)
      (named : ¬IsBlankName feature.name)
      (repeats : ∃ earlier ∈ before, lowercase earlier.name = lowercase feature.name) :
      Reports features (.duplicateFeature feature.name)
  | invalidPattern {before after : List String} {pattern : String} {cause : Glob.Error}
      (split : config.excludedPaths = before ++ pattern :: after)
      (valid : ∀ earlier ∈ before, IsPattern earlier)
      (invalid : Glob.read pattern = .error cause) :
      Reports patterns (.invalidPattern pattern cause)
  | thresholdOutOfRange (outside : ¬Passes config threshold) :
      Reports threshold (.thresholdOutOfRange config.scoring.readinessThreshold)

end Check

/-- What a check complains about. -/
def checkComplaint? (check : Check) : Option ConfigError :=
  match Check.run config check with
  | .error e => some e
  | .ok _ => none

/-- A configuration is validated by its checks, one after the other. -/
lemma validate_eq :
    config.validate = firstComplaint (fun _ => checkComplaint? config) [] Check.all := by
  unfold validate
  simp only [Check.all, firstComplaint, checkComplaint?, Check.run]
  cases checkAnalyzers config.analyzers with
  | error e => rfl
  | ok =>
    cases config.typecheck.enabled && config.typecheck.command.isEmpty with
    | true => rfl
    | false =>
      cases checkFeatures [] config.features with
      | error e => rfl
      | ok =>
        cases checkPatterns config.excludedPaths with
        | error e => rfl
        | ok =>
          cases decide (0 ≤ config.scoring.readinessThreshold) &&
              decide (config.scoring.readinessThreshold ≤ 100) with
          | true => rfl
          | false => rfl

namespace Check

variable {config}

lemma allBlank_iff {name : String} : allBlank name.toList = true ↔ IsBlankName name :=
  List.all_eq_true

lemma analyzerComplaint?_eq_some_iff {name : String} {e : ConfigError} :
    analyzerComplaint? name = some e ↔ name ∉ analyzerNames ∧ e = .unknownAnalyzer name := by
  rw [analyzerComplaint?]
  split_ifs with hknown
  · simp [hknown]
  · simp [hknown, eq_comm]

lemma allPass_analyzerComplaint?_iff {passed names : List String} :
    AllPass (fun _ => analyzerComplaint?) passed names ↔ ∀ name ∈ names, name ∈ analyzerNames := by
  simp [allPass_iff_forall, analyzerComplaint?]

lemma patternComplaint?_eq_some_iff {pattern : String} {e : ConfigError} :
    patternComplaint? pattern = some e ↔
      ∃ cause, Glob.read pattern = .error cause ∧ e = .invalidPattern pattern cause := by
  rw [patternComplaint?]
  cases Glob.read pattern with
  | error cause => simp [eq_comm]
  | ok tokens => simp

lemma allPass_patternComplaint?_iff {passed patterns : List String} :
    AllPass (fun _ => patternComplaint?) passed patterns ↔
      ∀ pattern ∈ patterns, IsPattern pattern := by
  rw [allPass_iff_forall]
  refine forall₂_congr fun pattern _ => ?_
  rw [patternComplaint?, IsPattern]
  cases Glob.read pattern <;> simp

lemma featureComplaint?_eq_none_iff {passed : List Feature} {feature : Feature} :
    featureComplaint? passed feature = none ↔ ¬IsBlankName feature.name ∧
      lowercase feature.name ∉ passed.map (lowercase ·.name) := by
  rw [featureComplaint?, ← allBlank_iff]
  split_ifs with hblank hseen
  · simp [hblank]
  · simp [hseen]
  · simp [hblank, hseen]

lemma featureComplaint?_eq_some_iff {passed : List Feature} {feature : Feature} {e : ConfigError} :
    featureComplaint? passed feature = some e ↔
      IsBlankName feature.name ∧ e = .blankFeature ∨
        ¬IsBlankName feature.name ∧ lowercase feature.name ∈ passed.map (lowercase ·.name) ∧
          e = .duplicateFeature feature.name := by
  rw [featureComplaint?, ← allBlank_iff]
  split_ifs with hblank hseen
  · simp [hblank, eq_comm]
  · simp [hblank, hseen, eq_comm]
  · simp [hblank, hseen]

lemma allPass_featureComplaint?_iff {passed features : List Feature} :
    AllPass featureComplaint? passed features ↔
      AreTellable features ∧
        (passed.map (lowercase ·.name)).Disjoint (features.map (lowercase ·.name)) := by
  induction features generalizing passed with
  | nil => simp [allPass_nil, areTellable_nil]
  | cons feature rest ih =>
    rw [allPass_cons_iff, ih, featureComplaint?_eq_none_iff, areTellable_cons_iff]
    simp only [List.map_cons, List.map_append, List.map_nil, List.disjoint_cons_right,
      List.disjoint_append_left, List.singleton_disjoint]
    tauto

theorem run_eq_ok_iff (check : Check) : run config check = .ok () ↔ Passes config check := by
  cases check with
  | analyzers =>
    rw [run, checkAnalyzers_eq [], firstComplaint_eq_ok_iff, allPass_analyzerComplaint?_iff, Passes]
  | command =>
    rw [run, Passes]
    cases config.typecheck.enabled <;> cases config.typecheck.command <;> simp
  | features =>
    rw [run, checkFeatures_nil_eq, firstComplaint_eq_ok_iff, allPass_featureComplaint?_iff, Passes]
    simp
  | patterns =>
    rw [run, checkPatterns_eq [], firstComplaint_eq_ok_iff, allPass_patternComplaint?_iff, Passes]
  | threshold =>
    have hzero : Decimal.value? 0 = some 0 := by decide +kernel
    have hhundred : Decimal.value? 100 = some 100 := by decide +kernel
    rw [run, Passes, ← Decimal.between_iff hzero hhundred]
    simp

theorem run_eq_error_iff (check : Check) (e : ConfigError) :
    run config check = .error e ↔ Reports config check e := by
  cases check with
  | analyzers =>
    rw [run, checkAnalyzers_eq [], firstComplaint_eq_error_iff]
    constructor
    · rintro ⟨before, name, after, hsplit, hbefore, hname⟩
      obtain ⟨hunknown, rfl⟩ := analyzerComplaint?_eq_some_iff.mp hname
      exact .unknownAnalyzer hsplit (allPass_analyzerComplaint?_iff.mp hbefore) hunknown
    · intro h
      cases h with
      | unknownAnalyzer hsplit hknown hunknown =>
        exact ⟨_, _, _, hsplit, allPass_analyzerComplaint?_iff.mpr hknown,
          analyzerComplaint?_eq_some_iff.mpr ⟨hunknown, rfl⟩⟩
  | command =>
    rw [run]
    constructor
    · intro h
      split_ifs at h with hempty
      obtain rfl := Except.error.inj h
      rw [Bool.and_eq_true, List.isEmpty_iff] at hempty
      exact .emptyCommand hempty.1 hempty.2
    · intro h
      cases h with
      | emptyCommand henabled hempty =>
        rw [henabled, hempty]
        rfl
  | features =>
    rw [run, checkFeatures_nil_eq, firstComplaint_eq_error_iff]
    constructor
    · rintro ⟨before, feature, after, hsplit, hbefore, hfeature⟩
      have htellable := (allPass_featureComplaint?_iff.mp hbefore).1
      rcases featureComplaint?_eq_some_iff.mp hfeature with ⟨hblank, rfl⟩ | ⟨hnamed, hseen, rfl⟩
      · exact .blankFeature hsplit htellable hblank
      · exact .duplicateFeature hsplit htellable hnamed (List.mem_map.mp hseen)
    · intro h
      have hpass : ∀ {before}, AreTellable before → AllPass featureComplaint? [] before :=
        fun h => allPass_featureComplaint?_iff.mpr ⟨h, by simp⟩
      cases h with
      | blankFeature hsplit htellable hblank =>
        exact ⟨_, _, _, hsplit, hpass htellable,
          featureComplaint?_eq_some_iff.mpr (.inl ⟨hblank, rfl⟩)⟩
      | duplicateFeature hsplit htellable hnamed hrepeats =>
        exact ⟨_, _, _, hsplit, hpass htellable,
          featureComplaint?_eq_some_iff.mpr (.inr ⟨hnamed, List.mem_map.mpr hrepeats, rfl⟩)⟩
  | patterns =>
    rw [run, checkPatterns_eq [], firstComplaint_eq_error_iff]
    constructor
    · rintro ⟨before, pattern, after, hsplit, hbefore, hpattern⟩
      obtain ⟨cause, hcause, rfl⟩ := patternComplaint?_eq_some_iff.mp hpattern
      exact .invalidPattern hsplit (allPass_patternComplaint?_iff.mp hbefore) hcause
    · intro h
      cases h with
      | invalidPattern hsplit hvalid hcause =>
        exact ⟨_, _, _, hsplit, allPass_patternComplaint?_iff.mpr hvalid,
          patternComplaint?_eq_some_iff.mpr ⟨_, hcause, rfl⟩⟩
  | threshold =>
    have hpasses := @run_eq_ok_iff config threshold
    rw [run] at hpasses ⊢
    split_ifs at hpasses ⊢ with hbetween
    · have hinside : Passes config threshold := hpasses.mp rfl
      refine iff_of_false (by simp) fun h => ?_
      cases h with
      | thresholdOutOfRange houtside => exact houtside hinside
    · have houtside : ¬Passes config threshold := by simpa using hpasses
      constructor
      · intro h
        obtain rfl := Except.error.inj h
        exact .thresholdOutOfRange houtside
      · intro h
        cases h with
        | thresholdOutOfRange _ => rfl

lemma mem_all (check : Check) : check ∈ all := by
  cases check <;> decide

end Check

lemma checkComplaint?_eq_none_iff {check : Check} :
    checkComplaint? config check = none ↔ check.Passes config := by
  rw [checkComplaint?, ← Check.run_eq_ok_iff]
  cases check.run config <;> simp

lemma checkComplaint?_eq_some_iff {check : Check} {e : ConfigError} :
    checkComplaint? config check = some e ↔ check.Reports config e := by
  rw [checkComplaint?, ← Check.run_eq_error_iff]
  cases check.run config <;> simp

lemma allPass_checkComplaint?_iff {checks : List Check} :
    AllPass (fun _ => checkComplaint? config) [] checks ↔
      ∀ check ∈ checks, Check.Passes config check := by
  rw [allPass_iff_forall]
  exact forall₂_congr fun check _ => checkComplaint?_eq_none_iff config

lemma validate_eq_ok_iff :
    config.validate = .ok () ↔ ∀ check : Check, check.Passes config := by
  rw [validate_eq, firstComplaint_eq_ok_iff, allPass_checkComplaint?_iff]
  exact ⟨fun h check => h check check.mem_all, fun h check _ => h check⟩

/-- A configuration is valid just if it passes all checks. Otherwise the report is that of the first
check that it does not pass. -/
theorem validate_exact (config : Config) :
    (config.validate = .ok () ↔ ∀ check : Check, check.Passes config) ∧
      ∀ e, config.validate = .error e ↔
        ∃ before check after, Check.all = before ++ check :: after ∧
          (∀ earlier ∈ before, Check.Passes config earlier) ∧ Check.Reports config check e := by
  refine ⟨validate_eq_ok_iff config, fun e => ?_⟩
  rw [validate_eq, firstComplaint_eq_error_iff]
  simp only [allPass_checkComplaint?_iff, checkComplaint?_eq_some_iff]

/-- A name that is used again comes before a blank one, and features before patterns. -/
example :
    validate {
      features := [{ name := "Auth" }, { name := "AUTH" }, { name := " " }]
      excludedPaths := ["["] } = .error (.duplicateFeature "AUTH") := by
  rfl

end Config

end GapAudit
