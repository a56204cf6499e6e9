import Mathlib
import GapAudit.Proofs.Text.Scan
import GapAudit.Proofs.Text.Word
import GapAudit.Structure.Routes

/-!
# What an application root says of a page

A variable is bound to something loaded on demand where the text declares it so
(`mem_scan_lazyBinding?_iff`): no declaration of this form begins within another one, so that a scan
from left to right misses none. A page is shown by its name in the opening of a tag, or alone in
braces (`occursWhere_startsUse_iff`), whatever characters the name is made of.
-/

namespace GapAudit

namespace Text

variable {p : Char → Bool}

/-- Two ways to cut a text: if the second part of one cannot begin within the first part of the
other, it begins behind it. -/
lemma exists_append_of_apart {a b s t : List Char} (h : a ++ s = b ++ t)
    (hapart : ∀ c, c ≠ [] → b = a ++ c → s ≠ c ++ t) : ∃ c, a = b ++ c ∧ t = c ++ s := by
  rcases List.append_eq_append_iff.mp h with ⟨c, hb, hs⟩ | ⟨c, ha, ht⟩
  · by_cases hc : c = []
    · subst hc
      exact ⟨[], by simpa using hb.symm, by simpa using hs.symm⟩
    · exact absurd hs (hapart c hc hb)
  · exact ⟨c, ha, ht⟩

lemma exists_append_of_head {a b s t : List Char} (h : a ++ s = b ++ t)
    (hb : ∀ c ∈ b, p c = true) (hs : s.head?.any p = false) : ∃ c, a = b ++ c ∧ t = c ++ s := by
  refine exists_append_of_apart h fun c hne hrun hbegins => ?_
  obtain ⟨first, c, rfl⟩ := List.exists_cons_of_ne_nil hne
  have hfirst : p first = true := by
    apply hb
    rw [hrun]
    exact List.mem_append_right a List.mem_cons_self
  rw [hbegins, List.cons_append, List.head?_cons, Option.any_some, hfirst] at hs
  cases hs

lemma trimStart_append {blanks rest : List Char} (hblanks : ∀ c ∈ blanks, isBlank c = true)
    (hrest : rest.head?.any isBlank = false) : trimStart (blanks ++ rest) = rest := by
  have hspan := spanWhile_append hblanks hrest
  rw [spanWhile, Prod.mk.injEq] at hspan
  exact hspan.2

lemma exists_trimStart (s : List Char) :
    ∃ blanks, (∀ c ∈ blanks, isBlank c = true) ∧ s = blanks ++ trimStart s :=
  ⟨s.takeWhile isBlank, fun _ => List.mem_takeWhile_imp, List.takeWhile_append_dropWhile.symm⟩

end Text

namespace Routes

open Text

/-- The words that declare a variable. -/
def declaringWords : List (List Char) :=
  ["const".toList, "let".toList, "var".toList]

/-- A declaration of a variable that is bound to something loaded on demand, as it is written up to
the opening bracket. -/
structure LazyDeclaration where
  word : List Char
  blanks : List Char
  name : List Char
  beforeSign : List Char
  afterSign : List Char
  qualifier : List Char
  beforeBracket : List Char

namespace LazyDeclaration

/-- The text behind the sign that binds the variable, with what follows the opening bracket. -/
def value (d : LazyDeclaration) (rest : List Char) : List Char :=
  d.qualifier ++ "lazy".toList ++ (d.beforeBracket ++ '(' :: rest)

/-- The text of the declaration with what follows the opening bracket. -/
def text (d : LazyDeclaration) (rest : List Char) : List Char :=
  d.word ++ (d.blanks ++ (d.name ++ (d.beforeSign ++ '=' :: (d.afterSign ++ d.value rest))))

/-- Whether a declaration is one: a word, blanks, a name and a call, with or without the name of the
library, and blanks anywhere between. -/
structure IsProper (d : LazyDeclaration) : Prop where
  word : d.word ∈ declaringWords
  blanks_ne_nil : d.blanks ≠ []
  blanks : ∀ c ∈ d.blanks, isBlank c = true
  starts : d.name.head?.any startsName = true
  name : ∀ c ∈ d.name, isPlainNameChar c = true
  beforeSign : ∀ c ∈ d.beforeSign, isBlank c = true
  afterSign : ∀ c ∈ d.afterSign, isBlank c = true
  qualifier : d.qualifier = [] ∨ d.qualifier = "React.".toList
  beforeBracket : ∀ c ∈ d.beforeBracket, isBlank c = true

variable {d other : LazyDeclaration} {before : Option Char} {name s rest : List Char}

lemma lazyBinding?_eq_bind (before : Option Char) (s : List Char) :
    lazyBinding? before s =
      (wordAfter? before declaringWords s).bind fun s => (afterBlanks? s).bind fun s =>
        (nameAt? s).bind fun found => (after? ['='] (trimStart found.2)).bind fun s =>
          (after? "lazy".toList ((after? "React.".toList (trimStart s)).getD (trimStart s))).bind
            fun s => (after? ['('] (trimStart s)).bind fun s => some (found.1, s) := rfl

lemma IsProper.head?_value (h : d.IsProper) (rest : List Char) :
    (d.value rest).head?.any isBlank = false := by
  rcases h.qualifier with hq | hq <;> rw [value, hq] <;> rfl

lemma IsProper.head?_sign (h : d.IsProper) (tail : List Char) :
    (d.beforeSign ++ '=' :: tail).head?.any isPlainNameChar = false := by
  cases hgap : d.beforeSign with
  | nil => rfl
  | cons c gap =>
    rw [List.cons_append, List.head?_cons, Option.any_some, ← Bool.not_eq_true]
    intro hc
    have hblank := h.beforeSign c (by rw [hgap]; exact List.mem_cons_self)
    rw [not_isBlank_of_isPlainNameChar hc] at hblank
    cases hblank

/-- A declaration is read where no word runs into it. -/
lemma IsProper.lazyBinding?_eq (h : d.IsProper) (hbefore : before.any isWordChar = false)
    (rest : List Char) : lazyBinding? before (d.text rest) = some (d.name, rest) := by
  have hword : wordAfter? before declaringWords (d.text rest) =
      some (d.blanks ++ (d.name ++ (d.beforeSign ++ '=' :: (d.afterSign ++ d.value rest)))) := by
    apply wordAfter?_append hbefore
    have hmem := h.word
    simp only [declaringWords, List.mem_cons, List.not_mem_nil, or_false] at hmem
    rcases hmem with hw | hw | hw <;> rw [hw] <;> rfl
  have hblanks := afterBlanks?_append h.blanks_ne_nil h.blanks (head?_name_not_isBlank h.starts h.name
    (d.beforeSign ++ '=' :: (d.afterSign ++ d.value rest)))
  have hname := nameAt?_append h.starts h.name (h.head?_sign (d.afterSign ++ d.value rest))
  have hsign : trimStart (d.beforeSign ++ '=' :: (d.afterSign ++ d.value rest)) =
      '=' :: (d.afterSign ++ d.value rest) := trimStart_append h.beforeSign rfl
  have hvalue : trimStart (d.afterSign ++ d.value rest) = d.value rest :=
    trimStart_append h.afterSign (h.head?_value rest)
  have hqualifier : (after? "React.".toList (d.value rest)).getD (d.value rest) =
      "lazy".toList ++ (d.beforeBracket ++ '(' :: rest) := by
    rcases h.qualifier with hq | hq
    · have hnone : after? "React.".toList (d.value rest) = none := by rw [value, hq]; rfl
      rw [hnone, Option.getD_none, value, hq, List.nil_append]
    · rw [value, hq, List.append_assoc, after?_append, Option.getD_some]
  have hbracket : trimStart (d.beforeBracket ++ '(' :: rest) = '(' :: rest :=
    trimStart_append h.beforeBracket rfl
  have hopen : ∀ (c : Char) (tail : List Char), after? [c] (c :: tail) = some tail :=
    fun c tail => after?_append [c] tail
  rw [lazyBinding?_eq_bind, hword, Option.bind_some, hblanks, Option.bind_some, hname,
    Option.bind_some, hsign, hopen, Option.bind_some, hvalue, hqualifier, after?_append,
    Option.bind_some, hbracket, hopen, Option.bind_some]

/-- Whatever is read is a declaration. -/
lemma exists_of_lazyBinding?_eq_some (h : lazyBinding? before s = some (name, rest)) :
    before.any isWordChar = false ∧ ∃ d : LazyDeclaration, d.IsProper ∧ d.name = name ∧
      s = d.text rest := by
  simp only [lazyBinding?_eq_bind, Option.bind_eq_some_iff, Option.some.injEq, Prod.mk.injEq,
    Prod.exists, ↓existsAndEq, and_true] at h
  obtain ⟨behindWord, hword, behindBlanks, hblanks, behindName, behindSign, behindLazy, hname, hsign,
    hlazy, hbracket⟩ := h
  obtain ⟨hbefore, word, hmem, rfl⟩ := wordAfter?_eq_some hword
  obtain ⟨blanks, hne, hall, rfl⟩ := afterBlanks?_eq_some hblanks
  have hstarts := starts_of_nameAt?_eq_some hname
  obtain ⟨rfl, hplain⟩ := nameAt?_eq_some hname
  obtain ⟨beforeSign, hbeforeSign, hgap⟩ := exists_trimStart behindName
  obtain ⟨afterSign, hafterSign, hgap'⟩ := exists_trimStart behindSign
  obtain ⟨beforeBracket, hbeforeBracket, hgap''⟩ := exists_trimStart behindLazy
  rw [after?_eq_some hsign] at hgap
  rw [after?_eq_some hbracket] at hgap''
  obtain ⟨qualifier, hqualifier, hvalue⟩ : ∃ qualifier : List Char,
      (qualifier = [] ∨ qualifier = "React.".toList) ∧
        trimStart behindSign = qualifier ++ "lazy".toList ++ behindLazy := by
    cases hreact : after? "React.".toList (trimStart behindSign) with
    | none =>
      rw [hreact, Option.getD_none] at hlazy
      exact ⟨[], .inl rfl, after?_eq_some hlazy⟩
    | some tail =>
      rw [hreact, Option.getD_some] at hlazy
      refine ⟨_, .inr rfl, ?_⟩
      rw [after?_eq_some hreact, after?_eq_some hlazy, List.append_assoc]
  refine ⟨hbefore, ⟨word, blanks, name, beforeSign, afterSign, qualifier, beforeBracket⟩, ⟨hmem, hne,
    hall, hstarts, hplain, hbeforeSign, hafterSign, hqualifier, hbeforeBracket⟩, rfl, ?_⟩
  rw [hgap, hgap', hvalue, hgap'']
  rfl

/-- The characters around the sign and before the bracket of a declaration. -/
def isFiller (c : Char) : Bool :=
  isBlank c || c == '=' || c == '('

lemma IsProper.text_ne_nil (h : d.IsProper) (rest : List Char) : d.text rest ≠ [] := by
  intro hnil
  rw [text, List.append_eq_nil_iff, List.append_eq_nil_iff] at hnil
  exact h.blanks_ne_nil hnil.2.1

lemma IsProper.head?_text (h : d.IsProper) (rest : List Char) :
    (d.text rest).head?.any isFiller = false := by
  have hmem := h.word
  simp only [declaringWords, List.mem_cons, List.not_mem_nil, or_false] at hmem
  rcases hmem with hw | hw | hw <;> rw [text, hw] <;> rfl

/-- A text that is neither the beginning of a declaring word nor begins with one does not stand at
the head of a declaration. -/
lemma IsProper.text_ne_append (h : d.IsProper) {c : List Char}
    (hc : ∀ word ∈ declaringWords, ¬c <+: word ∧ ¬word <+: c) (rest tail : List Char) :
    d.text rest ≠ c ++ tail := by
  intro heq
  obtain ⟨hshort, hlong⟩ := hc d.word h.word
  have hword : d.word <+: d.text rest := List.prefix_append _ _
  have hbegins : c <+: d.text rest := by
    rw [heq]
    exact List.prefix_append c tail
  rcases List.prefix_or_prefix_of_prefix hword hbegins with hprefix | hprefix
  · exact hlong hprefix
  · exact hshort hprefix

/-- A name that ends where the sign follows is no declaring word in front of another name. -/
lemma IsProper.text_ne_name (h : d.IsProper) (hother : other.IsProper) {c : List Char}
    (hc : ∀ a ∈ c, isPlainNameChar a = true) (rest tail : List Char) :
    d.text rest ≠ c ++ (other.beforeSign ++ '=' :: tail) := by
  intro heq
  have hword : ∀ a ∈ d.word, isPlainNameChar a = true := by
    have hall : (declaringWords.all fun word => word.all isAsciiAlphanumeric) = true := by
      decide +kernel
    have hletters := List.all_eq_true.mp (List.all_eq_true.mp hall d.word h.word)
    exact fun a hmem => isPlainNameChar_of_isAsciiAlphanumeric (hletters a hmem)
  set behind := d.beforeSign ++ '=' :: (d.afterSign ++ d.value rest)
  have hblank : (d.blanks ++ (d.name ++ behind)).head?.any isPlainNameChar = false := by
    obtain ⟨first, blanks, hblanks⟩ := List.exists_cons_of_ne_nil h.blanks_ne_nil
    have hfirst : isBlank first = true := h.blanks first (by rw [hblanks]; exact List.mem_cons_self)
    rw [hblanks, List.cons_append, List.head?_cons, Option.any_some, ← Bool.not_eq_true]
    intro hname
    rw [not_isBlank_of_isPlainNameChar hname] at hfirst
    cases hfirst
  have hspan := spanWhile_append hword hblank
  have hspan' := spanWhile_append hc (hother.head?_sign tail)
  rw [← heq] at hspan'
  have hrest : d.blanks ++ (d.name ++ behind) = other.beforeSign ++ '=' :: tail :=
    congrArg Prod.snd (hspan.symm.trans hspan')
  have hnext : trimStart (d.blanks ++ (d.name ++ behind)) = d.name ++ behind :=
    trimStart_append h.blanks (head?_name_not_isBlank h.starts h.name behind)
  rw [hrest, trimStart_append hother.beforeSign rfl] at hnext
  have hstarts := h.starts
  cases hname : d.name with
  | nil => rw [hname] at hstarts; cases hstarts
  | cons first name =>
    rw [hname] at hstarts hnext
    obtain ⟨rfl, -⟩ := List.cons.inj hnext
    cases hstarts

lemma IsProper.not_overlaps (h : d.IsProper) (u rest found : List Char) :
    ¬Overlaps lazyBinding? none u (d.text rest) found := by
  rintro ⟨front, back, left, rfl, hback, hfind, hleft⟩
  obtain ⟨-, other, hother, -, heq⟩ := exists_of_lazyBinding?_eq_some hfind
  have hhead := h.head?_text rest
  have hblank : (d.text rest).head?.any isBlank = false :=
    any_eq_false_of_imp hhead fun c hc => by rw [isFiller, hc]; rfl
  -- The declaration cannot begin within any of the parts that the other one is made of.
  obtain ⟨behindWord, -, hword⟩ := exists_append_of_apart heq fun c hne hwithin => by
    apply h.text_ne_append
    have hnone : ∀ word ∈ declaringWords, ∀ c ∈ word.tail.tails, c ≠ [] →
        ∀ other ∈ declaringWords, ¬c <+: other ∧ ¬other <+: c := by decide
    refine hnone other.word hother.word c ?_ hne
    obtain ⟨first, more, rfl⟩ := List.exists_cons_of_ne_nil hback
    rw [hwithin, List.mem_tails]
    exact List.suffix_append more c
  obtain ⟨behindBlanks, -, hblanks⟩ := exists_append_of_head hword.symm hother.blanks hblank
  obtain ⟨behindName, -, hname⟩ := exists_append_of_apart hblanks.symm fun c hne hwithin => by
    apply h.text_ne_name hother
    intro a hmem
    apply hother.name
    rw [hwithin]
    exact List.mem_append_right _ hmem
  have hsign : behindName ++ d.text rest =
      (other.beforeSign ++ '=' :: other.afterSign) ++ other.value left := by
    rw [← hname]
    simp
  have hfiller : ∀ c ∈ other.beforeSign ++ '=' :: other.afterSign, isFiller c = true := by
    intro c hmem
    rw [List.mem_append, List.mem_cons] at hmem
    rcases hmem with hmem | rfl | hmem
    · rw [isFiller, hother.beforeSign c hmem]; rfl
    · rfl
    · rw [isFiller, hother.afterSign c hmem]; rfl
  obtain ⟨behindSign, -, hvalue⟩ := exists_append_of_head hsign hfiller hhead
  obtain ⟨behindCall, -, hbracket⟩ := exists_append_of_apart hvalue.symm fun c hne hwithin => by
    apply h.text_ne_append
    have hnone : ∀ c ∈ "React.lazy".toList.tails, c ≠ [] →
        ∀ other ∈ declaringWords, ¬c <+: other ∧ ¬other <+: c := by decide
    refine hnone c ((List.mem_tails _ _).mpr ?_) hne
    have hend : c <:+ other.qualifier ++ "lazy".toList := by
      rw [hwithin]
      exact List.suffix_append behindSign c
    rcases hother.qualifier with hq | hq <;> rw [hq] at hend
    · exact hend.trans (List.suffix_append "React.".toList "lazy".toList)
    · exact hend
  have hfiller' : ∀ c ∈ other.beforeBracket ++ ['('], isFiller c = true := by
    intro c hmem
    rw [List.mem_append, List.mem_singleton] at hmem
    rcases hmem with hmem | rfl
    · rw [isFiller, hother.beforeBracket c hmem]; rfl
    · rfl
  have hbracket' : behindCall ++ d.text rest = (other.beforeBracket ++ ['(']) ++ left := by
    rw [← hbracket]
    simp
  obtain ⟨behind, -, hrest⟩ := exists_append_of_head hbracket' hfiller' hhead
  rw [hrest, List.length_append] at hleft
  omega

/-- A scan finds just the variables that are declared so. -/
theorem mem_scan_lazyBinding?_iff {source name : List Char} :
    name ∈ scan lazyBinding? source ↔
      ∃ (before : List Char) (d : LazyDeclaration) (rest : List Char),
      d.IsProper ∧ d.name = name ∧ before.getLast?.any isWordChar = false ∧
        source = before ++ d.text rest := by
  constructor
  · intro hmem
    obtain ⟨before, v, rest, rfl, hfind⟩ := exists_of_mem_scan hmem
    obtain ⟨hbefore, d, hd, hname, rfl⟩ := exists_of_lazyBinding?_eq_some hfind
    exact ⟨before, d, rest, hd, hname, hbefore, rfl⟩
  · rintro ⟨before, d, rest, hd, rfl, hbefore, rfl⟩
    obtain hmem | ⟨found, -, hover⟩ :=
      mem_scan_or_overlaps (hd.lazyBinding?_eq hbefore rest) (hd.text_ne_nil rest)
    · exact hmem
    · exact absurd hover (hd.not_overlaps before rest found)

end LazyDeclaration

/-! ### Uses of a page -/

lemma startsBraced_iff {name s : List Char} :
    startsBraced name s = true ↔ ∃ blanks after, (∀ c ∈ blanks, isBlank c = true) ∧
      s = name ++ (blanks ++ '\x7d' :: after) := by
  rw [startsBraced]
  constructor
  · intro h
    cases hrest : after? name s with
    | none => rw [hrest] at h; cases h
    | some rest =>
      simp only [hrest, beq_iff_eq] at h
      obtain ⟨after, hafter⟩ := List.head?_eq_some_iff.mp h
      obtain ⟨blanks, hblanks, hsplit⟩ := exists_trimStart rest
      exact ⟨blanks, after, hblanks, by rw [after?_eq_some hrest, ← hafter, ← hsplit]⟩
  · rintro ⟨blanks, after, hblanks, rfl⟩
    have htrim : trimStart (blanks ++ '\x7d' :: after) = '\x7d' :: after :=
      trimStart_append hblanks rfl
    rw [after?_append]
    simp only [htrim]
    rfl

lemma goesOnBraced_iff {name s : List Char} :
    goesOnBraced name s = true ↔ ∃ blanks blanks' after, (∀ c ∈ blanks, isBlank c = true) ∧
      (∀ c ∈ blanks', isBlank c = true) ∧ s = blanks ++ (name ++ (blanks' ++ '\x7d' :: after)) := by
  induction s with
  | nil =>
    rw [goesOnBraced, startsBraced_iff]
    constructor
    · rintro ⟨blanks', after, hblanks', heq⟩
      exact ⟨[], blanks', after, by simp, hblanks', heq⟩
    · rintro ⟨blanks, blanks', after, -, hblanks', heq⟩
      simp at heq
  | cons c s ih =>
    rw [goesOnBraced, Bool.or_eq_true, Bool.and_eq_true, startsBraced_iff, ih]
    constructor
    · rintro (⟨blanks', after, hblanks', heq⟩ | ⟨hc, blanks, blanks', after, hblanks, hblanks', rfl⟩)
      · exact ⟨[], blanks', after, by simp, hblanks', heq⟩
      · exact ⟨c :: blanks, blanks', after, List.forall_mem_cons.mpr ⟨hc, hblanks⟩, hblanks', rfl⟩
    · rintro ⟨blanks, blanks', after, hblanks, hblanks', heq⟩
      cases blanks with
      | nil => exact .inl ⟨blanks', after, hblanks', heq⟩
      | cons first blanks =>
        obtain ⟨rfl, rfl⟩ := List.cons.inj heq
        obtain ⟨hc, hblanks⟩ := List.forall_mem_cons.mp hblanks
        exact .inr ⟨hc, blanks, blanks', after, hblanks, hblanks', rfl⟩

/-- Whether a text shows a page: its name stands behind the opening of a tag and before a blank, a
slash or the end of the tag, or it stands in braces with nothing but blanks around. -/
def Mentions (body name : List Char) : Prop :=
  (∃ before c after, body = before ++ '<' :: (name ++ c :: after) ∧
      (isBlank c = true ∨ c = '/' ∨ c = '>')) ∨
    ∃ before blanks blanks' after, (∀ c ∈ blanks, isBlank c = true) ∧
      (∀ c ∈ blanks', isBlank c = true) ∧
      body = before ++ '\x7b' :: (blanks ++ (name ++ (blanks' ++ '\x7d' :: after)))

lemma startsUse_iff {name s : List Char} :
    startsUse name s = true ↔
      (∃ c after, s = '<' :: (name ++ c :: after) ∧ (isBlank c = true ∨ c = '/' ∨ c = '>')) ∨
        ∃ inside, s = '\x7b' :: inside ∧ goesOnBraced name inside = true := by
  rw [startsUse.eq_def]
  split
  · next rest =>
    constructor
    · intro h
      cases hname : after? name rest with
      | none => simp [hname] at h
      | some tail =>
        cases tail with
        | nil => simp [hname] at h
        | cons c after =>
          left
          refine ⟨c, after, by rw [after?_eq_some hname], ?_⟩
          simpa [hname, or_assoc] using h
    · rintro (⟨c, after, heq, hc⟩ | ⟨inside, heq, -⟩)
      · obtain ⟨-, rfl⟩ := List.cons.inj heq
        simpa [after?_append, or_assoc] using hc
      · cases heq
  · next rest =>
    constructor
    · exact fun h => .inr ⟨rest, rfl, h⟩
    · rintro (⟨c, after, heq, -⟩ | ⟨inside, heq, h⟩)
      · cases heq
      · cases heq
        exact h
  · next hangle hbrace =>
    constructor
    · intro h
      cases h
    · rintro (⟨c, after, rfl, -⟩ | ⟨inside, rfl, -⟩)
      · exact absurd rfl (hangle _)
      · exact absurd rfl (hbrace _)

/-- A use of a page is found wherever it stands. -/
theorem occursWhere_startsUse_iff {body name : List Char} :
    occursWhere (fun _ s => startsUse name s) body = true ↔ Mentions body name := by
  rw [occursWhere_iff]
  simp only [startsUse_iff, goesOnBraced_iff, Mentions]
  constructor
  · rintro
      ⟨before, v, rfl, ⟨c, after, rfl, hc⟩ | ⟨inside, rfl, blanks, blanks', after, hb, hb', rfl⟩⟩
    · exact .inl ⟨before, c, after, rfl, hc⟩
    · exact .inr ⟨before, blanks, blanks', after, hb, hb', rfl⟩
  · rintro (⟨before, c, after, rfl, hc⟩ | ⟨before, blanks, blanks', after, hb, hb', rfl⟩)
    · exact ⟨before, _, rfl, .inl ⟨c, after, rfl, hc⟩⟩
    · exact ⟨before, _, rfl, .inr ⟨_, rfl, blanks, blanks', after, hb, hb', rfl⟩⟩

example :
    occursWhere (fun _ s => startsUse "[id]".toList s) "return <[id] />".toList = true ∧
      occursWhere (fun _ s => startsUse "[id]".toList s) "return <i />".toList = false := by
  decide

end Routes

end GapAudit
