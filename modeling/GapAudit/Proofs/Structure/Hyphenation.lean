import Mathlib
import GapAudit.Quality.Idioms
import GapAudit.Structure.Routes

/-!
# Names with hyphens between their words

In its hyphenated form a name keeps its characters in their order, each at a place that tells how
many words start up to it (`Routes.hyphenatedPlace`). All other places have a hyphen, one in front
of each capital behind a small letter or a digit. So the hyphens of the form are known
(`Routes.hyphen_iff`), and without them it is the name in small letters. A hyphenated name stays as
it is (`Routes.kebabCase_exact`).
-/

namespace GapAudit

namespace Text

lemma toLower_of_not_upper {c : Char} (h : isAsciiUpper c = false) : c.toLower = c := by
  simp only [isAsciiUpper, Bool.and_eq_false_iff, decide_eq_false_iff_not, Char.le_def] at h
  rw [Char.toLower, dif_neg]
  rintro ⟨hfirst, hlast⟩
  exact h.elim (· hfirst) (· hlast)

lemma isAsciiLower_toLower {c : Char} (h : isAsciiUpper c = true) :
    isAsciiLower c.toLower = true := by
  simp only [isAsciiUpper, Bool.and_eq_true, decide_eq_true_eq, Char.le_def] at h
  rw [Char.toLower, dif_pos h]
  simp only [isAsciiLower, Bool.and_eq_true, decide_eq_true_eq, Char.le_def,
    UInt32.le_iff_toNat_le, UInt32.toNat_add] at h ⊢
  have hA : 'A'.val.toNat = 65 := rfl
  have hZ : 'Z'.val.toNat = 90 := rfl
  have ha : 'a'.val.toNat = 97 := rfl
  have hz : 'z'.val.toNat = 122 := rfl
  have hshift : ('a'.val - 'A'.val).toNat = 32 := rfl
  omega

lemma isAsciiLetter_of_upper {c : Char} (h : isAsciiUpper c = true) : isAsciiLetter c = true := by
  rw [isAsciiLetter, h, Bool.or_true]

lemma not_upper_of_smallOrDigit {c : Char} (h : Quality.isSmallOrDigit c = true) :
    isAsciiUpper c = false := by
  rw [Bool.eq_false_iff]
  intro hupper
  simp only [Quality.isSmallOrDigit, isAsciiUpper, isAsciiLower, isAsciiDigit, Bool.or_eq_true,
    Bool.and_eq_true, decide_eq_true_eq] at h hupper
  rcases h with hlower | hdigit
  · exact absurd (hlower.1.trans hupper.2) (by decide)
  · exact absurd (hupper.1.trans hdigit.2) (by decide)

lemma not_upper_toLower (c : Char) : isAsciiUpper c.toLower = false := by
  cases hupper : isAsciiUpper c with
  | false => rwa [toLower_of_not_upper hupper]
  | true =>
    apply not_upper_of_smallOrDigit
    rw [Quality.isSmallOrDigit, isAsciiLower_toLower hupper, Bool.true_or]

end Text

namespace Routes

open Quality Text

/-- A character between words. -/
def isSeparator (c : Char) : Bool :=
  c == '-' || c == '_' || c == ' '

/-- The character that stands for one of a name in its hyphenated form. -/
def hyphenated (c : Char) : Char :=
  if isSeparator c then '-' else c.toLower

/-- Whether a capital stands at a place of a text behind a small letter or a digit; `small` says
whether one of these comes just before the text. -/
def isWordStart (small : Bool) (s : List Char) : (place : ℕ) → Bool
  | 0 => small && s[0]?.any isAsciiUpper
  | i + 1 => s[i]?.any isSmallOrDigit && s[i + 1]?.any isAsciiUpper

/-- The place in the hyphenated form that a character of a text comes to: a hyphen comes before it
for each word that starts up to its own place. -/
def hyphenatedPlace (small : Bool) (s : List Char) (i : ℕ) : ℕ :=
  i + (List.range (i + 1)).countP (isWordStart small s)

variable {small : Bool} {c : Char} {s : List Char} {i : ℕ}

lemma isWordStart_cons_succ (small : Bool) (c : Char) (s : List Char) (i : ℕ) :
    isWordStart small (c :: s) (i + 1) = isWordStart (isSmallOrDigit c) s i := by
  cases i with
  | zero => simp [isWordStart]
  | succ i => simp [isWordStart]

lemma hyphenatedPlace_zero (small : Bool) (s : List Char) :
    hyphenatedPlace small s 0 = if isWordStart small s 0 then 1 else 0 := by
  simp [hyphenatedPlace, List.countP_cons]

lemma hyphenatedPlace_cons_succ (small : Bool) (c : Char) (s : List Char) (i : ℕ) :
    hyphenatedPlace small (c :: s) (i + 1) =
      hyphenatedPlace small (c :: s) 0 + 1 + hyphenatedPlace (isSmallOrDigit c) s i := by
  have hstarts : isWordStart small (c :: s) ∘ Nat.succ = isWordStart (isSmallOrDigit c) s :=
    funext fun i => isWordStart_cons_succ small c s i
  rw [hyphenatedPlace_zero, hyphenatedPlace, hyphenatedPlace, List.range_succ_eq_map (n := i + 1),
    List.countP_cons, List.countP_map, hstarts]
  omega

lemma hyphenatedPlace_pos (h : isWordStart small s i = true) : 0 < hyphenatedPlace small s i := by
  have hcount : 0 < (List.range (i + 1)).countP (isWordStart small s) :=
    List.countP_pos_iff.mpr ⟨i, List.self_mem_range_succ, h⟩
  rw [hyphenatedPlace]
  omega

lemma strictMono_hyphenatedPlace (small : Bool) (s : List Char) :
    StrictMono (hyphenatedPlace small s) := by
  refine strictMono_nat_of_lt_succ fun i => ?_
  rw [hyphenatedPlace, hyphenatedPlace, List.range_succ (n := i + 1), List.countP_append]
  omega

lemma isSeparator_iff : isSeparator c = true ↔ c = '-' ∨ c = '_' ∨ c = ' ' := by
  rw [isSeparator, Bool.or_eq_true, Bool.or_eq_true, beq_iff_eq, beq_iff_eq, beq_iff_eq, or_assoc]

lemma isSeparator_of_letter (h : isAsciiLetter c = true) : isSeparator c = false := by
  rw [Bool.eq_false_iff, ne_eq, isSeparator_iff]
  rintro (rfl | rfl | rfl) <;> exact absurd h (by decide)

lemma isSeparator_toLower (c : Char) : isSeparator c.toLower = isSeparator c := by
  cases hupper : isAsciiUpper c with
  | false => rw [toLower_of_not_upper hupper]
  | true =>
    have hlower : isAsciiLetter c.toLower = true := by
      rw [isAsciiLetter, isAsciiLower_toLower hupper, Bool.true_or]
    rw [isSeparator_of_letter (isAsciiLetter_of_upper hupper), isSeparator_of_letter hlower]

lemma hyphenated_eq_hyphen_iff : hyphenated c = '-' ↔ isSeparator c = true := by
  rw [hyphenated]
  split
  · next hseparator => exact iff_of_true rfl hseparator
  · next hseparator =>
    refine iff_of_false (fun heq => hseparator ?_) hseparator
    rw [← isSeparator_toLower, heq]
    rfl

/-- A character that is no capital, no underscore and no blank. -/
def IsPlain (c : Char) : Prop :=
  isAsciiUpper c = false ∧ c ≠ '_' ∧ c ≠ ' '

lemma isPlain_hyphen : IsPlain '-' :=
  ⟨by decide, by decide, by decide⟩

lemma isPlain_hyphenated (c : Char) : IsPlain (hyphenated c) := by
  rw [hyphenated]
  split
  · exact isPlain_hyphen
  · next hseparator =>
    rw [← isSeparator_toLower, isSeparator_iff, not_or, not_or] at hseparator
    exact ⟨not_upper_toLower c, hseparator.2⟩

/-- A character comes behind a hyphen if a word starts with it. -/
lemma kebabFrom_cons (small : Bool) (c : Char) (s : List Char) :
    kebabFrom small (c :: s) = List.replicate (hyphenatedPlace small (c :: s) 0) '-' ++
      hyphenated c :: kebabFrom (isSmallOrDigit c) s := by
  have hstart : isWordStart small (c :: s) 0 = (small && isAsciiUpper c) := rfl
  rw [hyphenatedPlace_zero, hstart, kebabFrom]
  by_cases hblank : (c == '_' || c == ' ') = true
  · rw [if_pos hblank]
    rw [Bool.or_eq_true, beq_iff_eq, beq_iff_eq] at hblank
    rcases hblank with rfl | rfl <;> cases small <;> rfl
  · rw [if_neg hblank]
    cases hupper : isAsciiUpper c with
    | true =>
      have hsmall : isSmallOrDigit c = false := by
        rw [Bool.eq_false_iff]
        intro hsmall
        rw [not_upper_of_smallOrDigit hsmall] at hupper
        cases hupper
      rw [hyphenated, isSeparator_of_letter (isAsciiLetter_of_upper hupper), hsmall]
      cases small <;> rfl
    | false =>
      have hsame : hyphenated c = c := by
        rw [hyphenated]
        split
        · next hseparator =>
          rw [Bool.or_eq_true, beq_iff_eq, beq_iff_eq] at hblank
          exact ((isSeparator_iff.mp hseparator).resolve_right hblank).symm
        · exact toLower_of_not_upper hupper
      rw [hsame, Bool.and_false]
      rfl

lemma getElem?_behind_hyphens (n k : ℕ) (c : Char) (s : List Char) :
    (List.replicate n '-' ++ c :: s)[n + 1 + k]? = s[k]? := by
  have hbehind : (List.replicate n '-').length ≤ n + 1 + k := by
    rw [List.length_replicate]
    omega
  rw [List.getElem?_append_right hbehind, List.length_replicate, Nat.add_assoc,
    Nat.add_sub_cancel_left, Nat.add_comm 1 k, List.getElem?_cons_succ]

/-- Each character of a text has its place in the form. -/
lemma getElem?_kebabFrom (small : Bool) (s : List Char) (i : ℕ) :
    (kebabFrom small s)[hyphenatedPlace small s i]? = s[i]?.map hyphenated := by
  induction s generalizing small i with
  | nil => rfl
  | cons c s ih =>
    rw [kebabFrom_cons]
    cases i with
    | zero => simp
    | succ i =>
      rw [hyphenatedPlace_cons_succ, getElem?_behind_hyphens, ih, List.getElem?_cons_succ]

/-- A hyphen stands for a character between words or in front of one that starts a word. -/
theorem hyphen_iff (small : Bool) (s : List Char) (j : ℕ) :
    (kebabFrom small s)[j]? = some '-' ↔
      ∃ i, hyphenatedPlace small s i = j ∧ s[i]?.any isSeparator = true ∨
        hyphenatedPlace small s i = j + 1 ∧ isWordStart small s i = true := by
  induction s generalizing small j with
  | nil =>
    refine iff_of_false (by simp [kebabFrom]) ?_
    rintro ⟨i, ⟨-, hseparator⟩ | ⟨-, hword⟩⟩
    · cases hseparator
    · cases i <;> simp [isWordStart] at hword
  | cons c s ih =>
    have hfirst := hyphenatedPlace_zero small (c :: s)
    rw [kebabFrom_cons, ← Nat.or_exists_add_one]
    simp only [hyphenatedPlace_cons_succ, isWordStart_cons_succ, List.getElem?_cons_succ]
    generalize hyphenatedPlace small (c :: s) 0 = first at *
    rcases Nat.lt_trichotomy j first with hj | rfl | hj
    · -- the hyphen in front of a word that starts with the character
      rw [List.getElem?_append_left (by simpa using hj), List.getElem?_replicate, if_pos hj]
      refine iff_of_true rfl (.inl (.inr ?_))
      split at hfirst
      · next hword => exact ⟨by omega, hword⟩
      · omega
    · -- the character itself
      rw [List.getElem?_append_right (by simp), List.length_replicate, Nat.sub_self,
        List.getElem?_cons_zero, Option.some_inj, hyphenated_eq_hyphen_iff]
      constructor
      · exact fun hseparator => .inl (.inl ⟨rfl, hseparator⟩)
      · rintro ((⟨-, hseparator⟩ | ⟨heq, -⟩) | ⟨i, ⟨heq, -⟩ | ⟨heq, hword⟩⟩)
        · exact hseparator
        · omega
        · omega
        · have hpos := hyphenatedPlace_pos hword
          omega
    · -- what comes behind
      obtain ⟨k, rfl⟩ := Nat.exists_eq_add_of_le hj
      rw [getElem?_behind_hyphens, ih]
      constructor
      · rintro ⟨i, ⟨heq, hseparator⟩ | ⟨heq, hword⟩⟩
        · exact .inr ⟨i, .inl ⟨by omega, hseparator⟩⟩
        · exact .inr ⟨i, .inr ⟨by omega, hword⟩⟩
      · rintro ((⟨heq, -⟩ | ⟨heq, -⟩) | ⟨i, ⟨heq, hseparator⟩ | ⟨heq, hword⟩⟩)
        · omega
        · omega
        · exact ⟨i, .inl ⟨by omega, hseparator⟩⟩
        · exact ⟨i, .inr ⟨by omega, hword⟩⟩

lemma isPlain_of_mem_kebabFrom {small : Bool} {s : List Char} {c : Char}
    (h : c ∈ kebabFrom small s) : IsPlain c := by
  induction s generalizing small with
  | nil => cases h
  | cons d s ih =>
    rw [kebabFrom_cons] at h
    rcases List.mem_append.mp h with hmem | hmem
    · rw [List.eq_of_mem_replicate hmem]
      exact isPlain_hyphen
    · rcases List.mem_cons.mp hmem with rfl | hmem
      · exact isPlain_hyphenated d
      · exact ih hmem

lemma filter_kebabFrom (small : Bool) (s : List Char) :
    (kebabFrom small s).filter (· != '-') =
      (s.map Char.toLower).filter fun c => !isSeparator c := by
  induction s generalizing small with
  | nil => rfl
  | cons c s ih =>
    have hmark (n : ℕ) : (List.replicate n '-').filter (· != '-') = [] := by simp
    rw [kebabFrom_cons, List.filter_append, hmark, List.nil_append, List.map_cons, List.filter_cons,
      List.filter_cons, ih, isSeparator_toLower]
    cases hseparator : isSeparator c with
    | true =>
      rw [hyphenated_eq_hyphen_iff.mpr hseparator]
      rfl
    | false =>
      have hne : hyphenated c ≠ '-' := by
        rw [ne_eq, hyphenated_eq_hyphen_iff, hseparator]
        exact Bool.false_ne_true
      have hletter : hyphenated c = c.toLower := by rw [hyphenated, hseparator]; rfl
      rw [if_pos (by simpa using hne), hletter]
      rfl

/-- A text without capitals, underscores and blanks stays as it is. -/
lemma kebabFrom_of_isPlain (small : Bool) (h : ∀ c ∈ s, IsPlain c) : kebabFrom small s = s := by
  induction s generalizing small with
  | nil => rfl
  | cons c s ih =>
    obtain ⟨hupper, hunderscore, hblank⟩ := h c List.mem_cons_self
    have hrest := ih (isAsciiLower c || isAsciiDigit c) fun d hd => h d (List.mem_cons_of_mem c hd)
    have hnot : ¬(c == '_' || c == ' ') = true := by simp [hunderscore, hblank]
    rw [kebabFrom, if_neg hnot, hupper, if_neg Bool.false_ne_true, hrest]

/-- What a text becomes with hyphens between its words. It has no capitals, underscores and blanks,
and without hyphens it is the text in small letters without hyphens, underscores and blanks. The
characters keep their order, and a hyphen stands just for each of these and in front of each capital
behind a small letter or a digit. -/
structure IsHyphenated (s t : List Char) : Prop where
  plain : ∀ c ∈ t, IsPlain c
  letters : t.filter (· != '-') = (s.map Char.toLower).filter fun c => !isSeparator c
  inOrder : StrictMono (hyphenatedPlace false s)
  chars : ∀ i, t[hyphenatedPlace false s i]? = s[i]?.map hyphenated
  hyphens : ∀ j, t[j]? = some '-' ↔
    ∃ i, hyphenatedPlace false s i = j ∧ s[i]?.any isSeparator = true ∨
      hyphenatedPlace false s i = j + 1 ∧ isWordStart false s i = true

/-- A name in lower case with hyphens between its words is what it becomes in exactly this way, and
it becomes nothing else when this is done again. -/
theorem kebabCase_exact (name : String) :
    IsHyphenated name.toList (kebabCase name).toList ∧
      kebabCase (kebabCase name) = kebabCase name := by
  rw [kebabCase, String.toList_ofList]
  refine ⟨⟨fun _ => isPlain_of_mem_kebabFrom, filter_kebabFrom _ _, strictMono_hyphenatedPlace _ _,
    getElem?_kebabFrom _ _, hyphen_iff _ _⟩, ?_⟩
  rw [kebabCase, String.toList_ofList, kebabFrom_of_isPlain _ fun _ => isPlain_of_mem_kebabFrom]

/-- Capitals side by side are one word with what follows, and other capitals than those of ASCII
stay. -/
example : kebabCase "HTTPServer2Go_to Élan" = "httpserver2-go-to-Élan" := by
  decide +kernel

end Routes

end GapAudit
