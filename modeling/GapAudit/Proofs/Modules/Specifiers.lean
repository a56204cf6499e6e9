import GapAudit.Proofs.Modules.Comments
import GapAudit.Text.Blank

/-!
# What the recognisers of specifiers take

A statement's specifier is found at a word `import` or `export` with a clause and a quoted text
behind it (`staticSpecifier?_append`), and whatever is found there has this form
(`staticSpecifier?_eq_some`). Where an import stands, a search finds its specifier unless the text
before opens a specifier of its own (`mem_scan_staticSpecifier?`).
-/

namespace GapAudit.Modules

open Text

/-- Quotes around specifiers. -/
def isQuote (c : Char) : Bool :=
  c == '"' || c == '\''

/-- Characters of specifiers. -/
def isInnerChar (c : Char) : Bool :=
  c != '"' && c != '\'' && c != '\n'

lemma isInnerChar_of_isQuote {c : Char} (h : isQuote c = true) : isInnerChar c = false := by
  rw [isQuote, Bool.or_eq_true, beq_iff_eq, beq_iff_eq] at h
  rcases h with rfl | rfl <;> rfl

lemma isClauseChar_of_isQuote {c : Char} (h : isQuote c = true) : isClauseChar c = false := by
  rw [isQuote, Bool.or_eq_true, beq_iff_eq, beq_iff_eq] at h
  rcases h with rfl | rfl <;> decide

lemma drop_length_takeWhile (p : Char → Bool) (s : List Char) :
    s.drop (s.takeWhile p).length = s.dropWhile p := by
  have hdrop : (s.takeWhile p ++ s.dropWhile p).drop (s.takeWhile p).length = s.dropWhile p :=
    List.drop_left
  rwa [List.takeWhile_append_dropWhile] at hdrop

lemma quotedSpecifier?_cons {quote : Char} (s : List Char) (hquote : isQuote quote = true) :
    quotedSpecifier? (quote :: s) =
      match s.dropWhile isInnerChar with
      | close :: rest =>
        if (s.takeWhile isInnerChar).isEmpty || close == '\n' then none
        else some (String.ofList (s.takeWhile isInnerChar), rest)
      | [] => none := by
  rw [← drop_length_takeWhile]
  exact if_pos hquote

lemma quotedSpecifier?_eq_some {s rest : List Char} {specifier : String}
    (h : quotedSpecifier? s = some (specifier, rest)) :
    ∃ quote inner close, s = quote :: (inner ++ close :: rest) ∧ isQuote quote = true ∧
      (∀ c ∈ inner, isInnerChar c = true) ∧ isInnerChar close = false ∧
      specifier = String.ofList inner := by
  cases s with
  | nil => cases h
  | cons quote s =>
    by_cases hquote : isQuote quote = true
    · rw [quotedSpecifier?_cons s hquote] at h
      split at h
      · next close behind hdrop =>
        split at h
        · cases h
        · cases h
          have hclose : isInnerChar close = false := by
            simpa [hdrop] using List.head?_dropWhile_not isInnerChar s
          refine ⟨quote, s.takeWhile isInnerChar, close, ?_, hquote,
            fun c hc => List.mem_takeWhile_imp hc, hclose, rfl⟩
          rw [← hdrop, List.takeWhile_append_dropWhile]
      · cases h
    · have hnone : quotedSpecifier? (quote :: s) = none := if_neg hquote
      rw [hnone] at h
      cases h

lemma quotedSpecifier?_append {quote close : Char} {inner : List Char} (rest : List Char)
    (hquote : isQuote quote = true) (hclose : isQuote close = true) (hne : inner ≠ [])
    (hinner : ∀ c ∈ inner, isInnerChar c = true) :
    quotedSpecifier? (quote :: (inner ++ close :: rest)) = some (String.ofList inner, rest) := by
  have hspan : spanWhile isInnerChar (inner ++ close :: rest) = (inner, close :: rest) :=
    spanWhile_append hinner (isInnerChar_of_isQuote hclose)
  rw [spanWhile, Prod.mk.injEq] at hspan
  have hend : (close == '\n') = false := by
    rw [isQuote, Bool.or_eq_true, beq_iff_eq, beq_iff_eq] at hclose
    rcases hclose with rfl | rfl <;> rfl
  rw [quotedSpecifier?_cons _ hquote, hspan.1, hspan.2]
  simp [hne, hend]

/-- The words that begin statements with specifiers. -/
def statementWords : List (List Char) :=
  [['i', 'm', 'p', 'o', 'r', 't'], ['e', 'x', 'p', 'o', 'r', 't']]

/-- A text that may stand between the first word of a statement and its specifier. -/
structure IsClause (clause : List Char) : Prop where
  chars : ∀ c ∈ clause, isClauseChar c = true
  form : (!clause.isEmpty && allBlank clause || isFromClause clause) = true

lemma staticSpecifier?_eq_some {before : Option Char} {s rest : List Char} {specifier : String}
    (h : staticSpecifier? before s = some (specifier, rest)) :
    before.any isWordChar = false ∧ ∃ word ∈ statementWords, ∃ clause quote inner close,
      IsClause clause ∧ isQuote quote = true ∧ (∀ c ∈ inner, isInnerChar c = true) ∧
      isInnerChar close = false ∧ specifier = String.ofList inner ∧
      s = word ++ (clause ++ quote :: (inner ++ close :: rest)) := by
  simp only [staticSpecifier?, bind, Option.bind_eq_some_iff] at h
  obtain ⟨behind, hword, h⟩ := h
  obtain ⟨hbefore, word, hmem, rfl⟩ := wordAfter?_eq_some hword
  refine ⟨hbefore, word, hmem, (spanWhile isClauseChar behind).1, ?_⟩
  split at h
  · next hform =>
    obtain ⟨quote, inner, close, heq, hquote, hinner, hclose, hspecifier⟩ :=
      quotedSpecifier?_eq_some h
    refine ⟨quote, inner, close, ⟨fun c hc => List.mem_takeWhile_imp hc, hform⟩, hquote, hinner,
      hclose, hspecifier, ?_⟩
    rw [← heq, spanWhile, List.takeWhile_append_dropWhile]
  · cases h

lemma staticSpecifier?_append {before : Option Char} {word clause inner : List Char}
    {quote close : Char} (rest : List Char) (hbefore : before.any isWordChar = false)
    (hword : word ∈ statementWords) (hclause : IsClause clause)
    (hquote : isQuote quote = true) (hclose : isQuote close = true) (hne : inner ≠ [])
    (hinner : ∀ c ∈ inner, isInnerChar c = true) :
    staticSpecifier? before (word ++ (clause ++ quote :: (inner ++ close :: rest))) =
      some (String.ofList inner, rest) := by
  have hbehind : afterAny? statementWords
      (word ++ (clause ++ quote :: (inner ++ close :: rest))) =
        some (clause ++ quote :: (inner ++ close :: rest)) := by
    simp only [statementWords, List.mem_cons, List.not_mem_nil, or_false] at hword
    rcases hword with rfl | rfl
    · simp [afterAny?, statementWords, after?]
    · simp [afterAny?, statementWords, after?]
  have hspan : spanWhile isClauseChar (clause ++ quote :: (inner ++ close :: rest)) =
      (clause, quote :: (inner ++ close :: rest)) :=
    spanWhile_append hclause.chars (isClauseChar_of_isQuote hquote)
  have hwordAfter := wordAfter?_append hbefore hbehind
  rw [statementWords] at hwordAfter
  rw [staticSpecifier?, hwordAfter]
  simp only [bind, Option.bind_some, hspan, hclause.form, if_true]
  exact quotedSpecifier?_append rest hquote hclose hne hinner

/-- A text that ends within the specifier of a statement. -/
def OpensSpecifier (s : List Char) : Prop :=
  ∃ front, ∃ word ∈ statementWords, ∃ clause quote inner,
    s = front ++ (word ++ (clause ++ quote :: inner)) ∧ front.getLast?.any isWordChar = false ∧
      IsClause clause ∧ isQuote quote = true ∧ ∀ c ∈ inner, isInnerChar c = true

/-- A line that has ended opens no specifier. -/
lemma not_opensSpecifier_of_newline {s : List Char} (h : s.getLast? = some '\n') :
    ¬OpensSpecifier s := by
  rintro ⟨front, word, -, clause, quote, inner, rfl, -, -, hquote, hinner⟩
  rw [List.getLast?_append_of_ne_nil _ (by simp), List.getLast?_append_of_ne_nil _ (by simp),
    List.getLast?_append_of_ne_nil _ (List.cons_ne_nil _ _), List.getLast?_cons] at h
  cases hlast : inner.getLast? with
  | none =>
    rw [hlast] at h
    cases h
    cases hquote
  | some c =>
    rw [hlast] at h
    cases h
    cases hinner _ (List.mem_of_getLast? hlast)

/-- A text is cut in one way only where the characters of a class end. -/
lemma append_inj_of_stop {p : Char → Bool} {a b s t : List Char} (h : a ++ s = b ++ t)
    (ha : ∀ c ∈ a, p c = true) (hb : ∀ c ∈ b, p c = true) (hs : s.head?.any p = false)
    (ht : t.head?.any p = false) : a = b ∧ s = t := by
  have hspans : spanWhile p (a ++ s) = spanWhile p (b ++ t) := by rw [h]
  rwa [spanWhile_append ha hs, spanWhile_append hb ht, Prod.mk.injEq] at hspans

lemma isWordChar_of_mem_statementWords {word : List Char} (hword : word ∈ statementWords) :
    ∀ c ∈ word, isWordChar c = true := by
  have hall : (statementWords.all fun word => word.all isWordChar) = true := by decide
  exact List.all_eq_true.mp (List.all_eq_true.mp hall word hword)

lemma isClauseChar_of_mem_importWord : ∀ c ∈ importWord, isClauseChar c = true :=
  List.all_eq_true.mp (by decide)

section

variable {before behind clause inner : List Char} {quote : Char}
  (hapart : before.getLast?.any isWordChar = false) (hopens : ¬OpensSpecifier before)
  (hclause : IsClause clause) (hquote : isQuote quote = true)
  (hinner : ∀ c ∈ inner, isInnerChar c = true)

include hapart hopens hclause hquote hinner

/-- A match that begins before an import and reaches into it takes the import's own specifier. -/
lemma eq_of_overlaps {other : String} (hover : Overlaps staticSpecifier? none before
    (importWord ++ (clause ++ quote :: (inner ++ quote :: behind))) other) :
    other = String.ofList inner := by
  obtain ⟨front, back, rest, rfl, hback, hfind, hrest⟩ := hover
  obtain ⟨hfront, word, hword, clause', quote', inner', close, hclause', hquote', hinner', hclose,
    rfl, heq⟩ := staticSpecifier?_eq_some hfind
  rw [List.getLast?_append_of_ne_nil front hback] at hapart
  obtain ⟨middle, hmiddle, -, rfl, hbehindWord⟩ :=
    exists_append_of_last heq hback hapart (isWordChar_of_mem_statementWords hword)
  rw [Option.or_none] at hfront
  rcases List.append_eq_append_iff.mp hbehindWord with ⟨taken, rfl, hquoted⟩ | ⟨more, rfl, hmore⟩
  · cases taken with
    | nil =>
      -- The match would go on with a quote, but the import begins with its word.
      rw [List.nil_append, importWord, List.cons_append, List.cons.injEq] at hquoted
      rw [hquoted.1] at hquote'
      cases hquote'
    | cons c taken =>
      -- The quoted text begins before the import, so the text before opens a specifier.
      rw [List.cons_append, List.cons.injEq] at hquoted
      obtain ⟨rfl, hquoted⟩ := hquoted
      have hshort : taken.length ≤ inner'.length := by
        have hlengths := congrArg List.length hquoted
        simp only [List.length_append, List.length_cons] at hlengths hrest
        omega
      have htaken : taken <+: inner' :=
        List.prefix_of_prefix_length_le ⟨_, hquoted.symm⟩ (List.prefix_append inner' _) hshort
      exact absurd ⟨front, word, hword, clause', quote', taken, rfl, hfront, hclause', hquote',
        fun c hc => hinner' c (htaken.subset hc)⟩ hopens
  · -- The clause runs on through the import, up to the quote of its specifier.
    have hclauses : ∀ c ∈ importWord ++ clause, isClauseChar c = true := fun c hc =>
      (List.mem_append.mp hc).elim (isClauseChar_of_mem_importWord c) (hclause.chars c)
    have hmoreChars : ∀ c ∈ more, isClauseChar c = true := fun c hc =>
      hclause'.chars c (List.mem_append_right middle hc)
    rw [← List.append_assoc] at hmore
    obtain ⟨-, hsame⟩ := append_inj_of_stop hmore hclauses hmoreChars
      (isClauseChar_of_isQuote hquote) (isClauseChar_of_isQuote hquote')
    rw [List.cons.injEq] at hsame
    obtain ⟨rfl, -⟩ := append_inj_of_stop hsame.2 hinner hinner' (isInnerChar_of_isQuote hquote)
      hclose
    rfl

/-- The specifier of an import is found in a text. -/
theorem mem_scan_staticSpecifier? (hne : inner ≠ []) : String.ofList inner ∈
    scan staticSpecifier?
      (before ++ (importWord ++ (clause ++ quote :: (inner ++ quote :: behind)))) := by
  have hfind : staticSpecifier? before.getLast?
      (importWord ++ (clause ++ quote :: (inner ++ quote :: behind))) =
        some (String.ofList inner, behind) :=
    staticSpecifier?_append behind hapart List.mem_cons_self hclause hquote hquote hne hinner
  obtain hmem | ⟨other, hmem, hover⟩ := mem_scan_or_overlaps hfind (List.cons_ne_nil _ _)
  · exact hmem
  · rwa [eq_of_overlaps hapart hopens hclause hquote hinner hover] at hmem

end

end GapAudit.Modules
