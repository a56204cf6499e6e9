import Mathlib.Data.List.Chain
import GapAudit.Proofs.Modules.Specifiers
import GapAudit.Proofs.Text.Lines

/-!
# Specifiers of plain import lines, and of text in comments

Comments are removed without parsing and specifiers are found without parsing, so neither the
bindings of an import nor its specifier are known to be such. On lines that are imports and nothing
else the specifiers are found all the same, and nothing but them: words such as `from` or `import`
among the bindings, or a call within a specifier, do not matter. A text within a block comment gives
none, nor does one whose lines are all commented out, though a block comment may open on one such
line and close on another (`specifiers_exact`).
-/

namespace GapAudit.Modules

open Text

/-- Two neighbours in a text that are not the sign of a comment. -/
def NoSign (c d : Char) : Prop :=
  c = '/' → d ≠ '/' ∧ d ≠ '*'

lemma isChain_noSign_of_not_mem {s : List Char} (h : '/' ∉ s) : s.IsChain NoSign := by
  rw [List.isChain_iff_forall_rel_of_append_cons_cons]
  rintro c d front back rfl rfl
  exact absurd (by simp) h

lemma isChain_noSign_of_not_infix {s : List Char} (hline : ¬['/', '/'] <:+: s)
    (hblock : ¬['/', '*'] <:+: s) : s.IsChain NoSign := by
  rw [List.isChain_iff_forall_rel_of_append_cons_cons]
  rintro c d front back rfl rfl
  constructor
  · rintro rfl
    exact hline ⟨front, back, by simp⟩
  · rintro rfl
    exact hblock ⟨front, back, by simp⟩

lemma noSign_of_ne {c d : Char} (h : c ≠ '/') : NoSign c d :=
  fun hc => absurd hc h

lemma isChain_noSign_append {a b : List Char} (ha : a.IsChain NoSign) (hb : b.IsChain NoSign)
    (hlast : a.getLast? ≠ some '/') : (a ++ b).IsChain NoSign := by
  apply ha.append hb
  intro c hc d _
  apply noSign_of_ne
  rintro rfl
  exact hlast hc

lemma dropBlockComments_of_isChain {s : List Char} (h : s.IsChain NoSign) :
    dropBlockComments false s = s := by
  induction s with
  | nil => rfl
  | cons c s ih =>
    rw [dropBlockComments, ih h.tail]
    rintro rest rfl rfl
    exact ((List.isChain_cons_cons.mp h).1 rfl).2 rfl

lemma dropLineComments_of_isChain {s : List Char} (h : s.IsChain NoSign) (before : Option Char) :
    dropLineComments false before s = s := by
  induction s generalizing before with
  | nil => rfl
  | cons c s ih =>
    rw [dropLineComments, if_neg, ih h.tail]
    rw [startsLineComment_iff]
    rintro ⟨rfl, hhead, -⟩
    obtain ⟨rest, rfl⟩ := List.head?_eq_some_iff.mp hhead
    exact ((List.isChain_cons_cons.mp h).1 rfl).1 rfl

lemma stripComments_of_isChain {s : List Char} (h : s.IsChain NoSign) : stripComments s = s := by
  unfold stripComments
  rw [dropBlockComments_of_isChain h, dropLineComments_of_isChain h]

lemma dropBlockComments_inside {t : List Char} (h : ¬['*', '/'] <:+: t) :
    dropBlockComments true (t ++ ['*', '/']) = [] := by
  induction t with
  | nil => rfl
  | cons c t ih =>
    rw [List.cons_append, dropBlockComments]
    · exact ih fun hin => h (hin.trans (List.suffix_cons c t).isInfix)
    · rintro rest rfl heq
      cases t with
      | nil => cases heq
      | cons d t =>
        cases heq
        exact h ⟨[], t, rfl⟩

lemma stripComments_blockComment {t : List Char} (h : ¬['*', '/'] <:+: t) :
    stripComments ('/' :: '*' :: (t ++ ['*', '/'])) = [] := by
  have hcloses : occursIn ['*', '/'] (t ++ ['*', '/']) = true :=
    occursIn_iff.mpr (List.suffix_append t _).isInfix
  unfold stripComments
  rw [dropBlockComments, if_pos hcloses, dropBlockComments_inside h]
  rfl

/-- What stands before each line that is commented out. -/
def lineMark : List Char :=
  ['/', '/', ' ']

/-- A text with each of its lines commented out. -/
def commentOut (t : List Char) : List Char :=
  ['\n'].intercalate ((splitAt '\n' t).map (lineMark ++ ·))

/-- A text with a mark behind each end of a line. -/
def marked (t : List Char) : List Char :=
  t.flatMap fun c => if c = '\n' then '\n' :: lineMark else [c]

lemma commentOut_eq (t : List Char) : commentOut t = lineMark ++ marked t := by
  unfold commentOut
  induction t with
  | nil => rfl
  | cons c t ih =>
    obtain ⟨piece, pieces, hpieces⟩ := List.exists_cons_of_ne_nil (splitAt_ne_nil '\n' t)
    rw [splitAt, hpieces]
    rw [hpieces] at ih
    by_cases hc : c = '\n'
    · subst hc
      have hmarked : marked ('\n' :: t) = '\n' :: (lineMark ++ marked t) := rfl
      rw [hmarked, ← ih]
      rfl
    · have hmarked : marked (c :: t) = c :: marked t := by
        simp [marked, hc]
      rw [hmarked, if_neg (by simpa using hc)]
      cases pieces with
      | nil => simpa [List.intercalate] using ih
      | cons next pieces => simpa [List.intercalate] using ih

lemma marked_of_ne {c : Char} (h : c ≠ '\n') (t : List Char) : marked (c :: t) = c :: marked t := by
  simp [marked, h]

lemma marked_mark (t : List Char) :
    marked ('/' :: '/' :: ' ' :: t) = '/' :: '/' :: ' ' :: marked t := by
  rw [marked_of_ne (by decide), marked_of_ne (by decide), marked_of_ne (by decide)]

/-- What follows the first character of a marked text is a marked text as well. -/
lemma exists_marked_of_cons {t s : List Char} {c : Char} (h : marked t = c :: s) :
    ∃ t', s = marked t' := by
  cases t with
  | nil => cases h
  | cons d t =>
    by_cases hd : d = '\n'
    · subst hd
      cases h
      exact ⟨'/' :: '/' :: ' ' :: t, (marked_mark t).symm⟩
    · rw [marked_of_ne hd] at h
      cases h
      exact ⟨t, rfl⟩

lemma exists_marked_of_newline {t s : List Char} (h : marked t = '\n' :: s) :
    ∃ t', s = '/' :: '/' :: ' ' :: marked t' := by
  cases t with
  | nil => cases h
  | cons d t =>
    by_cases hd : d = '\n'
    · subst hd
      cases h
      exact ⟨t, rfl⟩
    · rw [marked_of_ne hd] at h
      cases h
      exact absurd rfl hd

lemma dropBlockComments_mark (s : List Char) :
    dropBlockComments false ('/' :: '/' :: ' ' :: s) =
      '/' :: '/' :: ' ' :: dropBlockComments false s := by
  rw [dropBlockComments, dropBlockComments, dropBlockComments]
  · intro rest h
    cases h
  · rintro rest - h
    cases h
  · rintro rest - h
    cases h

lemma dropLineComments_inside_cons {c : Char} (hc : c ≠ '\n') (before : Option Char)
    (s : List Char) :
    dropLineComments true before (c :: s) = dropLineComments true (some c) s := by
  rw [dropLineComments, if_neg (by simpa using hc)]

/-- A mark starts a line comment. -/
lemma dropLineComments_mark {before : Option Char} (h : before.any shieldsSlashes = false)
    (s : List Char) :
    dropLineComments false before ('/' :: '/' :: ' ' :: s) = dropLineComments true (some ' ') s := by
  have hstart : StartsLineComment before '/' ('/' :: ' ' :: s).head? := ⟨rfl, rfl, h⟩
  rw [dropLineComments, if_pos (startsLineComment_iff.mpr hstart),
    dropLineComments_inside_cons (by decide), dropLineComments_inside_cons (by decide)]

/-- Whether a block comment has just been opened or closed, a line that is commented out is gone up
to its end: what is left within a line comment are ends of lines. -/
lemma eq_newline_of_mem_marked {u : List Char} (inside : Bool) {t : List Char} (hu : u = marked t)
    (before : Option Char) :
    ∀ c ∈ dropLineComments true before (dropBlockComments inside u), c = '\n' := by
  fun_induction dropBlockComments inside u generalizing t before with
  | case1 => simp [dropLineComments]
  | case2 s ih =>
    obtain ⟨t', ht'⟩ := exists_marked_of_cons hu.symm
    obtain ⟨t'', ht''⟩ := exists_marked_of_cons ht'.symm
    exact ih ht'' before
  | case3 c s _ ih =>
    obtain ⟨t', ht'⟩ := exists_marked_of_cons hu.symm
    exact ih ht' before
  | case4 s _ ih =>
    obtain ⟨t', ht'⟩ := exists_marked_of_cons hu.symm
    obtain ⟨t'', ht''⟩ := exists_marked_of_cons ht'.symm
    exact ih ht'' before
  | case5 s _ ih =>
    obtain ⟨t', ht'⟩ := exists_marked_of_cons hu.symm
    rw [dropLineComments_inside_cons (by decide)]
    exact ih ht' (some '/')
  | case6 c s _ ih =>
    by_cases hc : c = '\n'
    · subst hc
      -- The next line begins with its mark, which no block comment takes away.
      obtain ⟨t', rfl⟩ := exists_marked_of_newline hu.symm
      have hbehind := ih (marked_mark t').symm (some '\n')
      rw [dropBlockComments_mark] at hbehind ⊢
      rw [dropLineComments_inside_cons (by decide), dropLineComments_inside_cons (by decide),
        dropLineComments_inside_cons (by decide)] at hbehind
      rw [dropLineComments, if_pos (by decide), dropLineComments_mark rfl]
      exact List.forall_mem_cons.mpr ⟨rfl, hbehind⟩
    · obtain ⟨t', ht'⟩ := exists_marked_of_cons hu.symm
      rw [dropLineComments_inside_cons hc]
      exact ih ht' (some c)

lemma eq_newline_of_mem_commentOut (t : List Char) :
    ∀ c ∈ stripComments (commentOut t), c = '\n' := by
  have hstrip : stripComments (commentOut t) =
      dropLineComments true (some ' ') (dropBlockComments false (marked t)) := by
    unfold stripComments
    rw [commentOut_eq]
    change dropLineComments false none (dropBlockComments false ('/' :: '/' :: ' ' :: marked t)) = _
    rw [dropBlockComments_mark, dropLineComments_mark rfl]
  rw [hstrip]
  exact eq_newline_of_mem_marked false rfl (some ' ')

lemma staticSpecifier?_eq_none {before : Option Char} {c : Char} (hc : isWordChar c = false)
    (s : List Char) : staticSpecifier? before (c :: s) = none := by
  by_contra hfound
  obtain ⟨⟨specifier, rest⟩, hfound⟩ := Option.ne_none_iff_exists'.mp hfound
  obtain ⟨-, word, hword, clause, quote, inner, close, -, -, -, -, -, heq⟩ :=
    staticSpecifier?_eq_some hfound
  have hletters := isWordChar_of_mem_statementWords hword
  simp only [statementWords, List.mem_cons, List.not_mem_nil, or_false] at hword
  rcases hword with rfl | rfl
  · cases heq
    exact absurd (hletters 'i' List.mem_cons_self) (by simp [hc])
  · cases heq
    exact absurd (hletters 'e' List.mem_cons_self) (by simp [hc])

/-- A call has an opening parenthesis, and a quoted text as its argument. -/
lemma callSpecifier?_eq_some {word s rest : List Char} {before : Option Char} {specifier : String}
    (h : callSpecifier? word before s = some (specifier, rest)) :
    ∃ gap blanks quoted, s = word ++ (gap ++ '(' :: (blanks ++ quoted)) ∧
      (∀ c ∈ blanks, isBlank c = true) ∧ quotedSpecifier? quoted ≠ none := by
  simp only [callSpecifier?, bind, Option.bind_eq_some_iff] at h
  obtain ⟨behind, hword, argument, hopen, ⟨found, last⟩, hquoted, -⟩ := h
  obtain ⟨-, word', hmem, rfl⟩ := wordAfter?_eq_some hword
  obtain rfl := List.mem_singleton.mp hmem
  refine ⟨behind.takeWhile isBlank, argument.takeWhile isBlank, trimStart argument, ?_,
    fun c hc => List.mem_takeWhile_imp hc, by rw [hquoted]; exact Option.some_ne_none _⟩
  have hargument : '(' :: argument = behind.dropWhile isBlank :=
    (after?_eq_some hopen).symm
  rw [trimStart, List.takeWhile_append_dropWhile, hargument, List.takeWhile_append_dropWhile]

lemma scan_eq_nil {find : Option Char → List Char → Option (String × List Char)} {s : List Char}
    (h : ∀ u v, s = u ++ v → find u.getLast? v = none) : scan find s = [] := by
  rw [List.eq_nil_iff_forall_not_mem]
  intro found hmem
  obtain ⟨u, v, rest, heq, hfind⟩ := exists_of_mem_scan hmem
  rw [h u v heq] at hfind
  cases hfind

/-- A text calls nothing if behind none of its opening parentheses a quoted text stands, with blanks
before it at most. -/
lemma scan_callSpecifier?_eq_nil {s : List Char}
    (h : ∀ front blanks quoted, s = front ++ '(' :: (blanks ++ quoted) →
      (∀ c ∈ blanks, isBlank c = true) → quotedSpecifier? quoted = none) (word : List Char) :
    scan (callSpecifier? word) s = [] := by
  apply scan_eq_nil
  rintro u v rfl
  by_contra hfound
  obtain ⟨⟨specifier, rest⟩, hfound⟩ := Option.ne_none_iff_exists'.mp hfound
  obtain ⟨gap, blanks, quoted, rfl, hblanks, hquoted⟩ := callSpecifier?_eq_some hfound
  exact hquoted (h (u ++ (word ++ gap)) blanks quoted (by simp) hblanks)

lemma scan_callSpecifier?_of_not_mem {s : List Char} (h : '(' ∉ s) (word : List Char) :
    scan (callSpecifier? word) s = [] := by
  apply scan_callSpecifier?_eq_nil
  rintro front blanks quoted rfl
  exact absurd (by simp) h

lemma scanFrom_staticSpecifier?_of_newlines {s : List Char} (h : ∀ c ∈ s, c = '\n')
    (before : Option Char) : scanFrom staticSpecifier? 0 before s = [] := by
  induction s generalizing before with
  | nil => rfl
  | cons c s ih =>
    obtain ⟨rfl, hs⟩ := List.forall_mem_cons.mp h
    rw [scanFrom, staticSpecifier?_eq_none (by decide)]
    exact ih hs (some '\n')

/-- What is left of a source without comments decides on its specifiers. -/
lemma specifiers_of_newlines {source : List Char} (h : ∀ c ∈ stripComments source, c = '\n') :
    specifiers source = [] := by
  have hparen : '(' ∉ stripComments source := by
    intro hmem
    cases h '(' hmem
  unfold specifiers
  dsimp only
  rw [scan, scanFrom_staticSpecifier?_of_newlines h, scan_callSpecifier?_of_not_mem hparen,
    scan_callSpecifier?_of_not_mem hparen]
  rfl

/-! ### Lines that are imports -/

/-- A character between the word `import` and the word `from` of a plain import. -/
def isBindingChar (c : Char) : Bool :=
  isAsciiAlphanumeric c || ['_', '$', '*', '\x7b', '\x7d', ',', ' '].contains c

/-- An import of some bindings that stands on one line. -/
structure ImportLine where
  bindings : List Char
  specifier : List Char
  bindings_ne : bindings ≠ []
  bindings_chars : ∀ c ∈ bindings, isBindingChar c = true
  specifier_ne : specifier ≠ []
  specifier_chars : ∀ c ∈ specifier, isInnerChar c = true
  no_line_comment : ¬['/', '/'] <:+: specifier
  no_block_comment : ¬['/', '*'] <:+: specifier

/-- The word before the specifier of an import. -/
def fromWord : List Char :=
  [' ', 'f', 'r', 'o', 'm', ' ']

namespace ImportLine

/-- The text between the word `import` and the specifier. -/
def clause (line : ImportLine) : List Char :=
  ' ' :: (line.bindings ++ fromWord)

def text (line : ImportLine) : List Char :=
  importWord ++ (line.clause ++ '"' :: (line.specifier ++ '"' :: [';']))

/-- The text of several lines. -/
def textOf (lines : List ImportLine) : List Char :=
  ['\n'].intercalate (lines.map text)

end ImportLine

lemma isClauseChar_of_isBindingChar {c : Char} (h : isBindingChar c = true) :
    isClauseChar c = true := by
  rw [isBindingChar, Bool.or_eq_true, List.contains_iff_mem] at h
  rcases h with h | h
  · have hword : isWordChar c = true := by
      simp [isWordChar, toNat_lt_of_isAsciiAlphanumeric h, h]
    simp [isClauseChar, hword]
  · have hall : (['_', '$', '*', '\x7b', '\x7d', ',', ' '].all isClauseChar) = true := by decide
    exact List.all_eq_true.mp hall c h

lemma endsWith_append (word s : List Char) : endsWith word (s ++ word) = true := by
  rw [endsWith, List.reverse_append, startsWith_iff]
  exact List.prefix_append _ _

/-- Whatever words stand among the bindings, the clause ends in the word `from`. -/
lemma isFromClause_append {bindings : List Char} (hne : bindings ≠ []) :
    isFromClause (' ' :: (bindings ++ fromWord)) = true := by
  have htrim : trimEnd (' ' :: (bindings ++ fromWord)) =
      (' ' :: bindings ++ [' ']) ++ ['f', 'r', 'o', 'm'] := by
    have hsplit : ' ' :: (bindings ++ fromWord) =
        (' ' :: bindings ++ [' ', 'f', 'r', 'o']) ++ 'm' :: [' '] := by
      simp [fromWord]
    rw [hsplit, trimEnd_append_cons (by decide)]
    simp [trimEnd, dropEndWhile, isBlank]
  have htake : ((' ' :: bindings ++ [' ']) ++ ['f', 'r', 'o', 'm']).take
      (((' ' :: bindings ++ [' ']) ++ ['f', 'r', 'o', 'm']).length - 4) =
        ' ' :: bindings ++ [' '] :=
    List.take_left' (by simp)
  have hpos := List.length_pos_iff.mpr hne
  unfold isFromClause
  dsimp only
  rw [htrim, endsWith_append, htake, List.getLast?_concat]
  simp [fromWord, isBlank]
  omega

lemma ImportLine.isClause_clause (line : ImportLine) : IsClause line.clause where
  chars c hc := by
    have hfrom : ∀ c ∈ fromWord, isClauseChar c = true := List.all_eq_true.mp (by decide)
    rcases List.mem_cons.mp hc with rfl | hc
    · decide
    · rcases List.mem_append.mp hc with hc | hc
      · exact isClauseChar_of_isBindingChar (line.bindings_chars c hc)
      · exact hfrom c hc
  form := by
    unfold ImportLine.clause
    rw [isFromClause_append line.bindings_ne, Bool.or_true]

namespace ImportLine

lemma textOf_singleton (line : ImportLine) : textOf [line] = line.text := by
  simp [textOf, List.intercalate]

lemma textOf_cons_cons (line next : ImportLine) (more : List ImportLine) :
    textOf (line :: next :: more) = line.text ++ '\n' :: textOf (next :: more) := by
  simp [textOf, List.intercalate]

/-- What stands before the specifier has only letters, characters of a clause and a quote. -/
lemma not_mem_before_specifier (line : ImportLine) {c : Char} (hword : c ∉ importWord)
    (hclause : isClauseChar c = false) (hquote : c ≠ '"') :
    c ∉ importWord ++ (line.clause ++ ['"']) := by
  intro hmem
  rcases List.mem_append.mp hmem with hmem | hmem
  · exact hword hmem
  · rcases List.mem_append.mp hmem with hmem | hmem
    · rw [line.isClause_clause.chars c hmem] at hclause
      cases hclause
    · exact hquote (List.mem_singleton.mp hmem)

lemma text_eq (line : ImportLine) :
    line.text = (importWord ++ (line.clause ++ ['"'])) ++ (line.specifier ++ ['"', ';']) := by
  simp [text]

lemma getLast?_text (line : ImportLine) : line.text.getLast? = some ';' := by
  rw [text_eq, List.getLast?_append_of_ne_nil _ (by simp),
    List.getLast?_append_of_ne_nil _ (by simp)]
  rfl

lemma isChain_text (line : ImportLine) : line.text.IsChain NoSign := by
  have hspecifier := isChain_noSign_of_not_infix line.no_line_comment line.no_block_comment
  have hends : (['"', ';'] : List Char).IsChain NoSign := isChain_noSign_of_not_mem (by decide)
  have hbefore : '/' ∉ importWord ++ (line.clause ++ ['"']) :=
    line.not_mem_before_specifier (by decide) (by decide) (by decide)
  rw [text_eq]
  apply isChain_noSign_append (isChain_noSign_of_not_mem hbefore)
  · apply hspecifier.append hends
    -- A slash at the end of the specifier stands before its quote.
    rintro c - d hd
    cases hd
    exact fun _ => by decide
  · rw [← List.append_assoc, List.getLast?_concat]
    decide

variable {ending : List Char} (hending : ∀ c ∈ ending, c = '\n')

include hending

lemma isChain_textOf (lines : List ImportLine) : (textOf lines ++ ending).IsChain NoSign := by
  have hslash : '/' ∉ ending := by
    intro hmem
    cases hending '/' hmem
  have hlast (line : ImportLine) : line.text.getLast? ≠ some '/' := by
    rw [getLast?_text]
    decide
  induction lines with
  | nil => exact isChain_noSign_of_not_mem hslash
  | cons line more ih =>
    cases more with
    | nil =>
      rw [textOf_singleton]
      exact isChain_noSign_append line.isChain_text (isChain_noSign_of_not_mem hslash) (hlast line)
    | cons next more =>
      have hbehind : ('\n' :: (textOf (next :: more) ++ ending)).IsChain NoSign :=
        ih.cons fun _ _ => noSign_of_ne (by decide)
      rw [textOf_cons_cons, List.append_assoc, List.cons_append]
      exact isChain_noSign_append line.isChain_text hbehind (hlast line)

omit hending in
lemma scanFrom_text (line : ImportLine) {before : Option Char}
    (hbefore : before.any isWordChar = false) (behind : List Char) :
    scanFrom staticSpecifier? 0 before (line.text ++ behind) =
      String.ofList line.specifier :: scanFrom staticSpecifier? 0 (some ';') behind := by
  have hfind : staticSpecifier? before
      (importWord ++ (line.clause ++ '"' :: (line.specifier ++ '"' :: ';' :: behind))) =
        some (String.ofList line.specifier, ';' :: behind) :=
    staticSpecifier?_append _ hbefore List.mem_cons_self line.isClause_clause rfl rfl
      line.specifier_ne line.specifier_chars
  have hsplit : importWord ++ (line.clause ++ '"' :: (line.specifier ++ '"' :: ';' :: behind)) =
      (importWord ++ (line.clause ++ '"' :: (line.specifier ++ ['"']))) ++ ';' :: behind := by
    simp
  have htext : line.text ++ behind =
      (importWord ++ (line.clause ++ '"' :: (line.specifier ++ ['"']))) ++ ';' :: behind := by
    simp [text]
  rw [hsplit] at hfind
  rw [htext, scanFrom_append_of_some (by simp [importWord]) hfind, scanFrom,
    staticSpecifier?_eq_none (by decide)]

/-- Each line gives its specifier. -/
lemma scanFrom_textOf (lines : List ImportLine) {before : Option Char}
    (hbefore : before.any isWordChar = false) :
    scanFrom staticSpecifier? 0 before (textOf lines ++ ending) =
      lines.map fun line => String.ofList line.specifier := by
  induction lines generalizing before with
  | nil => exact scanFrom_staticSpecifier?_of_newlines hending before
  | cons line more ih =>
    cases more with
    | nil =>
      rw [textOf_singleton, scanFrom_text line hbefore,
        scanFrom_staticSpecifier?_of_newlines hending]
      rfl
    | cons next more =>
      rw [textOf_cons_cons, List.append_assoc, List.cons_append, scanFrom_text line hbefore,
        scanFrom, staticSpecifier?_eq_none (by decide)]
      dsimp only
      rw [ih (by decide)]
      rfl

/-- What stands in a text behind its opening parentheses: the rest of a specifier, and the end of
its line. -/
def ClosesAfter (s : List Char) : Prop :=
  ∀ a t, s = a ++ '(' :: t → ∃ inner behind, t = inner ++ '"' :: ';' :: behind ∧
    (∀ c ∈ inner, isInnerChar c = true) ∧ (behind = [] ∨ behind.head? = some '\n')

omit hending in
lemma exists_behind_of_not_mem {c : Char} {p s a t : List Char} (hc : c ∉ p)
    (h : p ++ s = a ++ c :: t) : ∃ a', s = a' ++ c :: t := by
  rcases List.append_eq_append_iff.mp h with ⟨a', -, hs⟩ | ⟨back, rfl, hback⟩
  · exact ⟨a', hs⟩
  · cases back with
    | nil => exact ⟨[], hback.symm⟩
    | cons d back =>
      cases hback
      exact absurd (by simp) hc

omit hending in
lemma closesAfter_text (line : ImportLine) {behind : List Char} (hbehind : ClosesAfter behind)
    (hend : behind = [] ∨ behind.head? = some '\n') : ClosesAfter (line.text ++ behind) := by
  intro a t h
  have htext : line.text ++ behind =
      (importWord ++ (line.clause ++ ['"'])) ++ (line.specifier ++ '"' :: ';' :: behind) := by
    simp [text]
  have hbefore : '(' ∉ importWord ++ (line.clause ++ ['"']) :=
    line.not_mem_before_specifier (by decide) (by decide) (by decide)
  rw [htext] at h
  obtain ⟨a', h⟩ := exists_behind_of_not_mem hbefore h
  rcases List.append_eq_append_iff.mp h with ⟨front, -, hfront⟩ | ⟨back, hback, ht⟩
  · have hsign : '(' ∉ (['"', ';'] : List Char) := by decide
    obtain ⟨a'', hrest⟩ := exists_behind_of_not_mem hsign hfront
    exact hbehind a'' t hrest
  · cases back with
    | nil => cases ht
    | cons d back =>
      cases ht
      refine ⟨back, behind, rfl, fun c hc => line.specifier_chars c ?_, hend⟩
      rw [hback]
      exact List.mem_append_right a' (List.mem_cons_of_mem _ hc)

lemma closesAfter_textOf (lines : List ImportLine) : ClosesAfter (textOf lines ++ ending) := by
  have hparen : '(' ∉ ending := by
    intro hmem
    cases hending '(' hmem
  have hnone : ClosesAfter ending := by
    rintro a t rfl
    exact absurd (by simp) hparen
  have hend : ending = [] ∨ ending.head? = some '\n' := by
    cases ending with
    | nil => exact .inl rfl
    | cons c ending => exact .inr (congrArg some (hending c List.mem_cons_self))
  induction lines with
  | nil => exact hnone
  | cons line more ih =>
    cases more with
    | nil =>
      rw [textOf_singleton]
      exact closesAfter_text line hnone hend
    | cons next more =>
      rw [textOf_cons_cons, List.append_assoc, List.cons_append]
      apply closesAfter_text line _ (.inr rfl)
      intro a t h
      obtain ⟨a', h⟩ := exists_behind_of_not_mem (p := ['\n']) (by decide) h
      exact ih a' t h

end ImportLine

lemma isQuote_of_quotedSpecifier? {s : List Char} (h : quotedSpecifier? s ≠ none) :
    s.head?.any isQuote = true := by
  obtain ⟨⟨specifier, rest⟩, h⟩ := Option.ne_none_iff_exists'.mp h
  obtain ⟨quote, inner, close, rfl, hquote, -⟩ := quotedSpecifier?_eq_some h
  exact hquote

/-- Behind the quote that closes a specifier no quoted text begins on the line. -/
lemma quotedSpecifier?_eq_none {behind : List Char} (h : behind = [] ∨ behind.head? = some '\n') :
    quotedSpecifier? ('"' :: ';' :: behind) = none := by
  have hstop : isInnerChar '\n' = false := by decide
  have hsemicolon : isInnerChar ';' = true := by decide
  rw [quotedSpecifier?_cons _ rfl]
  rcases h with rfl | h
  · rfl
  · obtain ⟨rest, rfl⟩ := List.head?_eq_some_iff.mp h
    rw [List.dropWhile_cons_of_pos hsemicolon, List.dropWhile_cons_of_neg (by simp [hstop])]
    dsimp only
    rw [if_pos (by simp)]

/-- No call is found where each opening parenthesis stands in a specifier. -/
lemma scan_callSpecifier?_of_closesAfter {s : List Char} (h : ImportLine.ClosesAfter s)
    (word : List Char) : scan (callSpecifier? word) s = [] := by
  apply scan_callSpecifier?_eq_nil
  intro front blanks quoted hs hblanks
  by_contra hquoted
  obtain ⟨inner, behind, heq, hinner, hend⟩ := h front (blanks ++ quoted) hs
  have hinner' : ∀ c ∈ inner, (!isQuote c) = true := by
    intro c hc
    by_contra hquote
    have hnot := isInnerChar_of_isQuote (by simpa using hquote)
    rw [hinner c hc] at hnot
    cases hnot
  have hblanks' : ∀ c ∈ blanks, (!isQuote c) = true := by
    intro c hc
    by_contra hquote
    have hblank := hblanks c hc
    simp only [isQuote, Bool.not_eq_true, Bool.not_eq_false', Bool.or_eq_true, beq_iff_eq] at hquote
    rcases hquote with rfl | rfl
    · cases hblank
    · cases hblank
  have hhead := isQuote_of_quotedSpecifier? hquoted
  obtain ⟨-, rfl⟩ := append_inj_of_stop heq hblanks' hinner'
    (by cases quoted <;> simp_all) rfl
  exact hquoted (quotedSpecifier?_eq_none hend)

lemma specifiers_textOf (lines : List ImportLine) {ending : List Char}
    (hending : ∀ c ∈ ending, c = '\n') :
    specifiers (ImportLine.textOf lines ++ ending) =
      lines.map fun line => String.ofList line.specifier := by
  have hstrip := stripComments_of_isChain (ImportLine.isChain_textOf hending lines)
  have hcalls := ImportLine.closesAfter_textOf hending lines
  unfold specifiers
  dsimp only
  rw [hstrip, scan, ImportLine.scanFrom_textOf hending lines rfl,
    scan_callSpecifier?_of_closesAfter hcalls, scan_callSpecifier?_of_closesAfter hcalls,
    List.append_nil, List.append_nil]

/-- The specifiers of lines that are imports are found, each once and in order, and nothing else is;
in a block comment, and in a text whose lines are all commented out, none is found. -/
theorem specifiers_exact :
    (∀ (lines : List ImportLine) (ending : List Char), (∀ c ∈ ending, c = '\n') →
      specifiers (ImportLine.textOf lines ++ ending) =
        lines.map fun line => String.ofList line.specifier) ∧
    (∀ t : List Char, ¬['*', '/'] <:+: t → specifiers ('/' :: '*' :: (t ++ ['*', '/'])) = []) ∧
    ∀ t : List Char, specifiers (commentOut t) = [] := by
  refine ⟨fun lines ending hending => specifiers_textOf lines hending, fun t ht => ?_, fun t => ?_⟩
  · apply specifiers_of_newlines
    rw [stripComments_blockComment ht]
    exact List.forall_mem_nil _
  · exact specifiers_of_newlines (eq_newline_of_mem_commentOut t)

/-- Imports whose bindings and specifiers look like other imports. -/
def deceptiveLines : List ImportLine :=
  [{ bindings := "from, \x7b import as from \x7d".toList
     specifier := "import(".toList
     bindings_ne := by decide
     bindings_chars := List.all_eq_true.mp (by decide)
     specifier_ne := by decide
     specifier_chars := List.all_eq_true.mp (by decide)
     no_line_comment := by decide
     no_block_comment := by decide },
   { bindings := "* as export".toList
     specifier := "./require( ".toList
     bindings_ne := by decide
     bindings_chars := List.all_eq_true.mp (by decide)
     specifier_ne := by decide
     specifier_chars := List.all_eq_true.mp (by decide)
     no_line_comment := by decide
     no_block_comment := by decide }]

theorem specifiers_exact_deceptive :
    specifiers ("import from, \x7b import as from \x7d from \"import(\";\n".toList ++
      "import * as export from \"./require( \";\n".toList) = ["import(", "./require( "] ∧
    ¬['*', '/'] <:+: "/ import a from 'b' *".toList ∧
    specifiers "/*/ import a from 'b' **/".toList = [] ∧
    specifiers "// import a /* from 'b'\n// import c */ from 'd'".toList = [] := by
  obtain ⟨hlines, hblock, hcommented⟩ := specifiers_exact
  have hnone : ¬['*', '/'] <:+: "/ import a from 'b' *".toList := by decide
  have hwritten : "import from, \x7b import as from \x7d from \"import(\";\n".toList ++
      "import * as export from \"./require( \";\n".toList =
        ImportLine.textOf deceptiveLines ++ ['\n'] := by
    decide +kernel
  have hclosed : "/*/ import a from 'b' **/".toList =
      '/' :: '*' :: ("/ import a from 'b' *".toList ++ ['*', '/']) := by
    decide +kernel
  have hmarked : "// import a /* from 'b'\n// import c */ from 'd'".toList =
      commentOut "import a /* from 'b'\nimport c */ from 'd'".toList := by
    decide +kernel
  have htext := hlines deceptiveLines ['\n'] (by simp)
  rw [hwritten, hclosed, hmarked]
  exact ⟨htext.trans (by decide +kernel), hnone, hblock _ hnone, hcommented _⟩

end GapAudit.Modules
