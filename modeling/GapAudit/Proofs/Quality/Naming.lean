import Mathlib
import GapAudit.Quality.Analysis
import GapAudit.Proofs.Path.Components
import GapAudit.Proofs.Project.GapIds
import GapAudit.Proofs.Score.Exact

/-!
# Which files break the convention of their folder

The conventions for names are regular expressions (`isPascalCase_iff`, `isCamelCase_iff`,
`isKebabCase_iff`). A file is charged as a component, as a page, or as a helper in one of the
folders of helpers, and listed once for each. The main statement says that the list has exactly the
charged files, and each of them once just when no file is charged for two reasons
(`namingViolations_exact`). Folders of helpers may lie within each other, so that a file is charged
twice (`nestedHelpers_charged_twice`).
-/

namespace GapAudit

namespace Text

/-- A text is its first piece and the others, each behind a separator. -/
lemma eq_of_splitAt {separator : Char} {s piece : List Char} {pieces : List (List Char)}
    (h : splitAt separator s = piece :: pieces) :
    s = piece ++ (pieces.map (separator :: ·)).flatten := by
  induction s generalizing piece pieces with
  | nil =>
    cases h
    rfl
  | cons c s ih =>
    rcases hs : splitAt separator s with _ | ⟨first, more⟩
    · exact absurd hs (splitAt_ne_nil separator s)
    · have htail := ih hs
      rw [splitAt, hs] at h
      split at h
      · next heq =>
        cases h
        rw [beq_iff_eq] at heq
        rw [htail, heq]
        rfl
      · cases h
        rw [htail]
        rfl

lemma splitAt_append_flatten {separator : Char} {piece : List Char} (hpiece : separator ∉ piece)
    {pieces : List (List Char)} (hpieces : ∀ p ∈ pieces, separator ∉ p) :
    splitAt separator (piece ++ (pieces.map (separator :: ·)).flatten) = piece :: pieces := by
  induction pieces generalizing piece with
  | nil => simpa using splitAt_of_not_mem hpiece
  | cons next pieces ih =>
    have hrest := ih (hpieces next List.mem_cons_self) fun p hp =>
      hpieces p (List.mem_cons_of_mem next hp)
    rw [List.map_cons, List.flatten_cons, List.cons_append, splitAt_append, hrest,
      splitAt_of_not_mem hpiece]
    rfl

end Text

namespace Quality

open Text

def anyOf : List Char → RegularExpression Char
  | [] => 0
  | c :: cs => .char c + anyOf cs

def charsBetween (first last : Char) : List Char :=
  (List.range' first.toNat (last.toNat + 1 - first.toNat)).map Char.ofNat

def capitals : List Char := charsBetween 'A' 'Z'

def smallLetters : List Char := charsBetween 'a' 'z'

def digits : List Char := charsBetween '0' '9'

/-- The expression `[A-Z][A-Za-z0-9]*`. -/
def pascalCase : RegularExpression Char :=
  anyOf capitals * (anyOf (capitals ++ smallLetters ++ digits)).star

/-- The expression `[a-z][A-Za-z0-9]*`. -/
def camelCase : RegularExpression Char :=
  anyOf smallLetters * (anyOf (capitals ++ smallLetters ++ digits)).star

/-- The expression `[a-z][a-z0-9]*(-[a-z0-9]+)*`. -/
def kebabCase : RegularExpression Char :=
  anyOf smallLetters * (anyOf (smallLetters ++ digits)).star *
    (.char '-' * (anyOf (smallLetters ++ digits) * (anyOf (smallLetters ++ digits)).star)).star

lemma mem_anyOf {cs s : List Char} : s ∈ (anyOf cs).matches' ↔ ∃ c ∈ cs, s = [c] := by
  induction cs with
  | nil => simp [anyOf]
  | cons c cs ih =>
    rw [anyOf, RegularExpression.matches'_add, Language.mem_add, ih]
    simp only [List.mem_cons, exists_eq_or_imp]
    rfl

lemma mem_star_anyOf {cs s : List Char} :
    s ∈ (anyOf cs).star.matches' ↔ ∀ c ∈ s, c ∈ cs := by
  rw [RegularExpression.matches'_star, Language.mem_kstar]
  constructor
  · rintro ⟨pieces, rfl, hpieces⟩ c hc
    obtain ⟨piece, hpiece, hmem⟩ := List.mem_flatten.mp hc
    obtain ⟨d, hd, rfl⟩ := mem_anyOf.mp (hpieces piece hpiece)
    rwa [List.mem_singleton.mp hmem]
  · intro h
    refine ⟨s.map fun c => [c], ?_, ?_⟩
    · induction s with
      | nil => rfl
      | cons c s ih => simpa using ih fun d hd => h d (List.mem_cons_of_mem c hd)
    · intro piece hpiece
      obtain ⟨c, hc, rfl⟩ := List.mem_map.mp hpiece
      exact mem_anyOf.mpr ⟨c, h c hc, rfl⟩

lemma mem_word {first rest s : List Char} :
    s ∈ (anyOf first * (anyOf rest).star).matches' ↔
      ∃ c t, s = c :: t ∧ c ∈ first ∧ ∀ d ∈ t, d ∈ rest := by
  rw [RegularExpression.matches'_mul, Language.mem_mul]
  constructor
  · rintro ⟨a, ha, t, ht, rfl⟩
    obtain ⟨c, hc, rfl⟩ := mem_anyOf.mp ha
    exact ⟨c, t, rfl, hc, mem_star_anyOf.mp ht⟩
  · rintro ⟨c, t, rfl, hc, ht⟩
    exact ⟨[c], mem_anyOf.mpr ⟨c, hc, rfl⟩, t, mem_star_anyOf.mpr ht, rfl⟩

lemma mem_charsBetween {first last c : Char} (hlast : last.toNat < 0xd800) :
    c ∈ charsBetween first last ↔ first ≤ c ∧ c ≤ last := by
  have hle : first ≤ c ∧ c ≤ last ↔ first.toNat ≤ c.toNat ∧ c.toNat ≤ last.toNat := Iff.rfl
  rw [hle, charsBetween, List.mem_map]
  constructor
  · rintro ⟨n, hn, rfl⟩
    rw [List.mem_range'_1] at hn
    have hvalid : n.isValidChar := Or.inl (by omega)
    rw [Char.toNat_ofNat, if_pos hvalid]
    omega
  · intro h
    refine ⟨c.toNat, ?_, c.ofNat_toNat⟩
    rw [List.mem_range'_1]
    omega

lemma isAsciiUpper_iff {c : Char} : isAsciiUpper c = true ↔ c ∈ capitals := by
  rw [capitals, mem_charsBetween (by decide)]
  simp [isAsciiUpper]

lemma isAsciiLower_iff {c : Char} : isAsciiLower c = true ↔ c ∈ smallLetters := by
  rw [smallLetters, mem_charsBetween (by decide)]
  simp [isAsciiLower]

lemma isAsciiDigit_iff {c : Char} : isAsciiDigit c = true ↔ c ∈ digits := by
  rw [digits, mem_charsBetween (by decide)]
  simp [isAsciiDigit]

lemma isAsciiAlphanumeric_iff {c : Char} :
    isAsciiAlphanumeric c = true ↔ c ∈ capitals ++ smallLetters ++ digits := by
  simp only [isAsciiAlphanumeric, isAsciiLetter, Bool.or_eq_true, isAsciiUpper_iff,
    isAsciiLower_iff, isAsciiDigit_iff, List.mem_append, or_comm (a := c ∈ capitals)]

lemma isSmallOrDigit_iff {c : Char} : isSmallOrDigit c = true ↔ c ∈ smallLetters ++ digits := by
  simp only [isSmallOrDigit, Bool.or_eq_true, isAsciiLower_iff, isAsciiDigit_iff, List.mem_append]

theorem isPascalCase_iff {s : List Char} : isPascalCase s = true ↔ s ∈ pascalCase.matches' := by
  rw [pascalCase, mem_word]
  cases s with
  | nil => simp [isPascalCase]
  | cons c s =>
    simp only [isPascalCase, Bool.and_eq_true, List.all_eq_true, isAsciiUpper_iff,
      isAsciiAlphanumeric_iff]
    exact ⟨fun h => ⟨c, s, rfl, h.1, h.2⟩, fun ⟨_, _, heq, h⟩ => by cases heq; exact h⟩

theorem isCamelCase_iff {s : List Char} : isCamelCase s = true ↔ s ∈ camelCase.matches' := by
  rw [camelCase, mem_word]
  cases s with
  | nil => simp [isCamelCase]
  | cons c s =>
    simp only [isCamelCase, Bool.and_eq_true, List.all_eq_true, isAsciiLower_iff,
      isAsciiAlphanumeric_iff]
    exact ⟨fun h => ⟨c, s, rfl, h.1, h.2⟩, fun ⟨_, _, heq, h⟩ => by cases heq; exact h⟩

lemma mem_laterWords {s : List Char} :
    s ∈ (RegularExpression.char '-' * (anyOf (smallLetters ++ digits) *
        (anyOf (smallLetters ++ digits)).star)).star.matches' ↔
      ∃ words : List (List Char), s = (words.map ('-' :: ·)).flatten ∧
        ∀ word ∈ words, word ≠ [] ∧ ∀ c ∈ word, c ∈ smallLetters ++ digits := by
  have hword : ∀ piece : List Char,
      piece ∈ (RegularExpression.char '-' * (anyOf (smallLetters ++ digits) *
        (anyOf (smallLetters ++ digits)).star)).matches' ↔
      ∃ word, piece = '-' :: word ∧ word ≠ [] ∧ ∀ c ∈ word, c ∈ smallLetters ++ digits := by
    intro piece
    rw [RegularExpression.matches'_mul, Language.mem_mul]
    constructor
    · rintro ⟨hyphen, rfl, word, hword, rfl⟩
      obtain ⟨c, t, rfl, hc, ht⟩ := mem_word.mp hword
      exact ⟨c :: t, rfl, by simp, List.forall_mem_cons.mpr ⟨hc, ht⟩⟩
    · rintro ⟨word, rfl, hne, hall⟩
      obtain ⟨c, t, rfl⟩ := List.exists_cons_of_ne_nil hne
      obtain ⟨hc, ht⟩ := List.forall_mem_cons.mp hall
      exact ⟨['-'], rfl, c :: t, mem_word.mpr ⟨c, t, rfl, hc, ht⟩, rfl⟩
  rw [RegularExpression.matches'_star, Language.mem_kstar]
  constructor
  · rintro ⟨pieces, rfl, hpieces⟩
    refine ⟨pieces.map List.tail, ?_, ?_⟩
    · rw [List.map_map]
      congr 1
      refine (List.map_id' pieces).symm.trans (List.map_congr_left fun piece hmem => ?_)
      obtain ⟨word, rfl, -⟩ := (hword piece).mp (hpieces piece hmem)
      rfl
    · intro word hmem
      obtain ⟨piece, hpiece, rfl⟩ := List.mem_map.mp hmem
      obtain ⟨word, rfl, hrest⟩ := (hword piece).mp (hpieces piece hpiece)
      exact hrest
  · rintro ⟨words, rfl, hwords⟩
    refine ⟨words.map ('-' :: ·), rfl, ?_⟩
    intro piece hmem
    obtain ⟨word, hmemWord, rfl⟩ := List.mem_map.mp hmem
    exact (hword _).mpr ⟨word, rfl, hwords word hmemWord⟩

lemma hyphen_not_mem {word : List Char} (h : ∀ c ∈ word, c ∈ smallLetters ++ digits) :
    '-' ∉ word := by
  intro hmem
  have hhyphen := isSmallOrDigit_iff.mpr (h '-' hmem)
  exact absurd hhyphen (by decide)

theorem isKebabCase_iff {s : List Char} : isKebabCase s = true ↔ s ∈ kebabCase.matches' := by
  have hshape : s ∈ kebabCase.matches' ↔ ∃ (c : Char) (t : List Char) (words : List (List Char)),
      s = c :: t ++ (words.map ('-' :: ·)).flatten ∧ c ∈ smallLetters ∧
        (∀ d ∈ t, d ∈ smallLetters ++ digits) ∧
        ∀ word ∈ words, word ≠ [] ∧ ∀ d ∈ word, d ∈ smallLetters ++ digits := by
    rw [kebabCase, RegularExpression.matches'_mul, Language.mem_mul]
    constructor
    · rintro ⟨first, hfirst, rest, hrest, rfl⟩
      obtain ⟨c, t, rfl, hc, ht⟩ := mem_word.mp hfirst
      obtain ⟨words, rfl, hwords⟩ := mem_laterWords.mp hrest
      exact ⟨c, t, words, rfl, hc, ht, hwords⟩
    · rintro ⟨c, t, words, rfl, hc, ht, hwords⟩
      exact ⟨c :: t, mem_word.mpr ⟨c, t, rfl, hc, ht⟩, _, mem_laterWords.mpr ⟨words, rfl, hwords⟩,
        rfl⟩
  have hlower : ∀ c ∈ smallLetters, c ∈ smallLetters ++ digits :=
    fun c hc => List.mem_append_left digits hc
  rw [hshape, isKebabCase, Bool.and_eq_true, List.all_eq_true]
  simp only [Bool.and_eq_true, Bool.not_eq_true', List.isEmpty_eq_false_iff, List.all_eq_true,
    isSmallOrDigit_iff]
  constructor
  · rintro ⟨hhead, hpieces⟩
    rcases hsplit : splitAt '-' s with _ | ⟨first, words⟩
    · exact absurd hsplit (splitAt_ne_nil '-' s)
    · rw [hsplit] at hpieces
      obtain ⟨⟨hne, hfirst⟩, hwords⟩ := List.forall_mem_cons.mp hpieces
      obtain ⟨c, t, rfl⟩ := List.exists_cons_of_ne_nil hne
      have hs := eq_of_splitAt hsplit
      rw [hs] at hhead
      refine ⟨c, t, words, hs, isAsciiLower_iff.mp hhead, ?_, hwords⟩
      exact fun d hd => hfirst d (List.mem_cons_of_mem c hd)
  · rintro ⟨c, t, words, rfl, hc, ht, hwords⟩
    have hfirst : ∀ d ∈ c :: t, d ∈ smallLetters ++ digits :=
      List.forall_mem_cons.mpr ⟨hlower c hc, ht⟩
    rw [splitAt_append_flatten (hyphen_not_mem hfirst) fun word hmem =>
      hyphen_not_mem (hwords word hmem).2]
    exact ⟨isAsciiLower_iff.mpr hc, List.forall_mem_cons.mpr ⟨⟨by simp, hfirst⟩, hwords⟩⟩

/-- The convention for base names of components and pages. -/
def NamedAsComponent (name : String) : Prop :=
  name = "index" ∨ name.toList ∈ pascalCase.matches'

/-- The convention for base names of helpers. -/
def NamedAsHelper (name : String) : Prop :=
  name = "index" ∨ name.toList ∈ camelCase.matches' ∨ name.toList ∈ kebabCase.matches'

lemma isComponentName_eq_false_iff {name : String} :
    (!isComponentName name) = true ↔ ¬NamedAsComponent name := by
  rw [Bool.not_eq_true', ← Bool.not_eq_true, isComponentName, Bool.or_eq_true, beq_iff_eq,
    isPascalCase_iff, NamedAsComponent]

lemma isUtilityName_eq_false_iff {name : String} :
    (!isUtilityName name) = true ↔ ¬NamedAsHelper name := by
  rw [Bool.not_eq_true', ← Bool.not_eq_true, isUtilityName, Bool.or_eq_true, Bool.or_eq_true,
    beq_iff_eq, isCamelCase_iff, isKebabCase_iff, or_assoc, NamedAsHelper]

end Quality

/-! ### Roles of files -/

/-- What a file can be charged as. A helper is one of a folder that the configuration lists. -/
inductive NamingRole (project : Project) where
  | component
  | page
  | helper (position : Fin project.config.layout.utilityDirs.length)
  deriving DecidableEq

namespace NamingRole

open Quality

variable {project : Project}

/-- The files that break the convention in a role. -/
def Charges : NamingRole project → String → Prop
  | component, file => file ∈ project.walk project.config.layout.componentsDir Walk.components ∧
      Path.isUnder project.config.layout.uiKitDir (project.relative file) = false ∧
      ¬NamedAsComponent (Path.baseName file)
  | page, file => file ∈ project.walk project.config.layout.pagesDir Walk.components ∧
      ¬NamedAsComponent (Path.baseName file)
  | helper position, file =>
      file ∈ project.walk (project.config.layout.utilityDirs.get position) Walk.sources ∧
      ¬NamedAsHelper (Path.baseName file)

def files : NamingRole project → List String
  | component => (QualityChecks.ownedFiles project).filter fun file =>
      !isComponentName (Path.baseName file)
  | page => (QualityChecks.pageFiles project).filter fun file =>
      !isComponentName (Path.baseName file)
  | helper position =>
      (project.walk (project.config.layout.utilityDirs.get position)
        Walk.sources).filter fun file => !isUtilityName (Path.baseName file)

variable (project) in
/-- All roles in the order in which they are looked at. -/
def all : List (NamingRole project) :=
  component :: page :: (List.finRange project.config.layout.utilityDirs.length).map helper

lemma mem_all (role : NamingRole project) : role ∈ all project := by
  cases role with
  | component => simp [all]
  | page => simp [all]
  | helper position => simp [all]

lemma nodup_all : (all project).Nodup := by
  have hinj : Function.Injective (@helper project) := fun _ _ h => by cases h; rfl
  simp [all, (List.nodup_finRange _).map hinj]

lemma mem_files {role : NamingRole project} {file : String} :
    file ∈ role.files ↔ role.Charges file := by
  cases role with
  | component =>
    rw [files, List.mem_filter, isComponentName_eq_false_iff, QualityChecks.ownedFiles,
      List.mem_filter, Bool.not_eq_true', QualityChecks.componentFiles, and_assoc, Charges]
  | page =>
    rw [files, List.mem_filter, isComponentName_eq_false_iff, QualityChecks.pageFiles, Charges]
  | helper position =>
    rw [files, List.mem_filter, isUtilityName_eq_false_iff, Charges]

lemma namingViolationsOf_eq :
    QualityChecks.namingViolationsOf project =
      (all project).flatMap fun role => role.files.map project.relative := by
  have hfolders : project.config.layout.utilityDirs =
      (List.finRange project.config.layout.utilityDirs.length).map
        project.config.layout.utilityDirs.get := by
    rw [← List.ofFn_eq_map, List.ofFn_get]
  rw [QualityChecks.namingViolationsOf, List.filter_append, List.map_append, List.append_assoc, all,
    List.flatMap_cons, List.flatMap_cons, List.flatMap_map]
  congr 2
  conv_lhs => rw [hfolders, List.flatMap_map]
  rfl

lemma nodup_files (htree : project.tree.isWellNamed = true)
    (hroot : Path.isAbsolute project.root = true) (role : NamingRole project) :
    (role.files.map project.relative).Nodup := by
  have hwalk := Project.nodup_relative_walk htree hroot
  cases role with
  | component =>
    exact (hwalk _ Walk.components).sublist ((List.filter_sublist.trans List.filter_sublist).map _)
  | page => exact (hwalk _ Walk.components).sublist (List.filter_sublist.map _)
  | helper position => exact (hwalk _ Walk.sources).sublist (List.filter_sublist.map _)

lemma disjoint_files_iff {role role' : NamingRole project} :
    (role.files.map project.relative).Disjoint (role'.files.map project.relative) ↔
      ∀ file file', role.Charges file → role'.Charges file' →
        project.relative file ≠ project.relative file' := by
  constructor
  · intro h file file' hfile hfile' heq
    refine h (List.mem_map_of_mem (mem_files.mpr hfile)) ?_
    rw [heq]
    exact List.mem_map_of_mem (mem_files.mpr hfile')
  · intro h path hpath hpath'
    obtain ⟨file, hfile, rfl⟩ := List.mem_map.mp hpath
    obtain ⟨file', hfile', heq⟩ := List.mem_map.mp hpath'
    exact h file file' (mem_files.mp hfile) (mem_files.mp hfile') heq.symm

end NamingRole

namespace QualityChecks

lemma mem_namingViolations_iff {project : Project} {path : String} :
    path ∈ (ofProject project).namingViolations ↔
      ∃ (role : NamingRole project) (file : String), role.Charges file ∧
        project.relative file = path := by
  change path ∈ namingViolationsOf project ↔ _
  rw [NamingRole.namingViolationsOf_eq, List.mem_flatMap]
  constructor
  · rintro ⟨role, -, hpath⟩
    obtain ⟨file, hfile, rfl⟩ := List.mem_map.mp hpath
    exact ⟨role, file, NamingRole.mem_files.mp hfile, rfl⟩
  · rintro ⟨role, file, hfile, rfl⟩
    exact ⟨role, role.mem_all, List.mem_map_of_mem (NamingRole.mem_files.mpr hfile)⟩

lemma nodup_namingViolations_iff {project : Project} (htree : project.tree.isWellNamed = true)
    (hroot : Path.isAbsolute project.root = true) :
    (ofProject project).namingViolations.Nodup ↔
      ∀ (role role' : NamingRole project) (file file' : String), role.Charges file →
        role'.Charges file' → project.relative file = project.relative file' → role = role' := by
  change (namingViolationsOf project).Nodup ↔ _
  have hroles : (NamingRole.all project).Pairwise (Function.onFun List.Disjoint fun role =>
      role.files.map project.relative) ↔ ∀ role role' : NamingRole project, role ≠ role' →
        (role.files.map project.relative).Disjoint (role'.files.map project.relative) := by
    constructor
    · intro h role role' hne
      have hsymm : Std.Symm (Function.onFun List.Disjoint fun role : NamingRole project =>
          role.files.map project.relative) := ⟨fun _ _ hdisjoint => List.Disjoint.symm hdisjoint⟩
      exact h.forall role.mem_all role'.mem_all hne
    · intro h
      exact NamingRole.nodup_all.pairwise_of_forall_ne fun role _ role' _ hne => h role role' hne
  rw [NamingRole.namingViolationsOf_eq, List.nodup_flatMap, hroles]
  simp only [NamingRole.disjoint_files_iff]
  constructor
  · rintro ⟨-, h⟩ role role' file file' hfile hfile' heq
    by_contra hne
    exact h role role' hne file file' hfile hfile' heq
  · intro h
    refine ⟨fun role _ => role.nodup_files htree hroot, ?_⟩
    intro role role' hne file file' hfile hfile' heq
    exact hne (h role role' file file' hfile hfile' heq)

/-- The list of files that break a convention has exactly the charged files. In a well-named tree it
has none of them twice just when none is charged in two roles. Each entry takes half a point off the
exact score, up to the cap. -/
theorem namingViolations_exact (project : Project) :
    let violations := (ofProject project).namingViolations
    (∀ path, path ∈ violations ↔
      ∃ (role : NamingRole project) (file : String), role.Charges file ∧
        project.relative file = path) ∧
      (project.tree.isWellNamed = true → Path.isAbsolute project.root = true →
        (violations.Nodup ↔
          ∀ (role role' : NamingRole project) (file file' : String), role.Charges file →
            role'.Charges file' → project.relative file = project.relative file' →
              role = role')) ∧
      ∀ typeErrors, (Deductions.ofChecks typeErrors (ofProject project) : Deductions ℚ).naming =
        min ((violations.length : ℚ) / 2) 10 := by
  intro violations
  refine ⟨fun _ => mem_namingViolations_iff, nodup_namingViolations_iff, fun typeErrors => ?_⟩
  have hcapped : (Deductions.ofChecks typeErrors (ofProject project) : Deductions ℚ).naming =
      Score.capped ((violations.length : ℚ) * (1 / 2)) 10 := rfl
  have hnonneg : (0 : ℚ) ≤ min ((violations.length : ℚ) * (1 / 2)) 10 :=
    le_min (by positivity) (by norm_num)
  rw [hcapped, Score.capped_eq, max_eq_left hnonneg, mul_one_div]

/-- A project with a component and a helper that break their conventions, and a page that keeps
its own. -/
def mixedNames : Project where
  tree := .folder [("p", .folder [("src", .folder [
    ("components", .folder [("userBadge.tsx", .file .empty)]),
    ("pages", .folder [("Dashboard.tsx", .file .empty)]),
    ("lib", .folder [("Helpers.ts", .file .empty)])])])]
  root := "/p"
  config := {}

theorem namingViolations_exact_mixed :
    mixedNames.tree.isWellNamed = true ∧ Path.isAbsolute mixedNames.root = true ∧
      (ofProject mixedNames).namingViolations =
        ["src/components/userBadge.tsx", "src/lib/Helpers.ts"] ∧
      (∃ (role : NamingRole mixedNames) (file : String), role.Charges file ∧
        mixedNames.relative file = "src/lib/Helpers.ts") ∧
      (∀ (role role' : NamingRole mixedNames) (file file' : String), role.Charges file →
        role'.Charges file' → mixedNames.relative file = mixedNames.relative file' →
          role = role') ∧
      (Deductions.ofChecks 3 (ofProject mixedNames) : Deductions ℚ).naming = 1 := by
  have htree : mixedNames.tree.isWellNamed = true := by decide +kernel
  have hroot : Path.isAbsolute mixedNames.root = true := by decide +kernel
  have hviolations : (ofProject mixedNames).namingViolations =
      ["src/components/userBadge.tsx", "src/lib/Helpers.ts"] := by
    decide +kernel
  obtain ⟨hmem, hnodup, hnaming⟩ := namingViolations_exact mixedNames
  refine ⟨htree, hroot, hviolations, (hmem _).mp ?_, (hnodup htree hroot).mp ?_, ?_⟩
  · simp [hviolations]
  · rw [hviolations]
    decide
  · rw [hnaming 3, hviolations]
    norm_num

/-- A project with a folder of helpers inside another one. -/
def nestedHelpers : Project where
  tree := .folder [("p", .folder [("src", .folder [("hooks", .folder [("forms", .folder [
    ("Use_Field.ts", .file .empty)])])])])]
  root := "/p"
  config := { layout := { utilityDirs := ["src/hooks", "src/hooks/forms"] } }

/-- Its configuration is valid, and the one file that breaks a convention is listed and charged
twice. -/
theorem nestedHelpers_charged_twice :
    nestedHelpers.config.validate.isOk ∧
      (ofProject nestedHelpers).namingViolations =
        ["src/hooks/forms/Use_Field.ts", "src/hooks/forms/Use_Field.ts"] ∧
      (Deductions.ofChecks 0 (ofProject nestedHelpers) : Deductions ℚ).naming = 1 := by
  have hviolations : (ofProject nestedHelpers).namingViolations =
      ["src/hooks/forms/Use_Field.ts", "src/hooks/forms/Use_Field.ts"] := by
    decide +kernel
  refine ⟨by decide +kernel, hviolations, ?_⟩
  rw [Deductions.ofChecks, hviolations]
  decide +kernel

end QualityChecks

end GapAudit
