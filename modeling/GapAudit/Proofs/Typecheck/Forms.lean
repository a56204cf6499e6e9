import Mathlib
import GapAudit.Proofs.Modules.Comments
import GapAudit.Proofs.Text.Lines
import GapAudit.Typecheck.Diagnostic

/-!
# The forms of diagnostics

A line is of a form if it has a file, a place in this form and a body, one behind the other. The
readers of places and bodies are exact for this (`place?_append`, `exists_of_place?`,
`body?_of_isBody`, `exists_of_body?`), so that no diagnostic is read from a line just if it is of
neither form (`ofLine?_eq_none_iff`). Where several places of a line could end the file, the first
one does (`ofLineWith?_append`).
-/

namespace GapAudit

namespace Text

/-- What is found first among the ways of splitting a text is found behind some beginning of it, if
it is found behind no shorter one. -/
lemma findSome?_splits_append {α : Type} {f : List Char × List Char → Option α} {u v : List Char}
    {found : α} (hfound : f (u, v) = some found)
    (hfirst : ∀ front back, u = front ++ back → back ≠ [] → f (front, back ++ v) = none) :
    (splits (u ++ v)).findSome? f = some found := by
  induction u generalizing f with
  | nil => cases v <;> simp [splits, hfound]
  | cons c u ih =>
    have hnil : f ([], c :: (u ++ v)) = none := hfirst [] (c :: u) rfl (List.cons_ne_nil c u)
    rw [List.cons_append, splits, List.findSome?_cons, hnil, List.findSome?_map]
    refine ih hfound fun front back heq hback => hfirst (c :: front) back ?_ hback
    rw [heq, List.cons_append]

/-- Digits of any script, of which there is at least one. -/
structure IsDigits (s : List Char) : Prop where
  ne_nil : s ≠ []
  digits : ∀ c ∈ s, isDecimalDigit c = true

lemma IsDigits.not_mem {s : List Char} (h : IsDigits s) {c : Char} (hc : isDecimalDigit c = false) :
    c ∉ s := fun hmem => by
  rw [h.digits c hmem] at hc
  cases hc

/-- Blanks, of which there is at least one. -/
structure IsBlanks (s : List Char) : Prop where
  ne_nil : s ≠ []
  blanks : ∀ c ∈ s, isBlank c = true

lemma isBlanks_space : IsBlanks [' '] :=
  ⟨List.cons_ne_nil _ _, by simp [isBlank]⟩

lemma isWordChar_of_isDecimalDigit {c : Char} (h : isDecimalDigit c = true) :
    isWordChar c = true := by
  rw [isDecimalDigit] at h
  rw [isWordChar]
  split_ifs at h ⊢ with hlow
  · simp [isAsciiAlphanumeric, h]
  · simp [h]

lemma not_isDecimalDigit_of_isBlank {c : Char} (h : isBlank c = true) :
    isDecimalDigit c = false := by
  rw [Bool.eq_false_iff]
  intro hdigit
  have hplain : isPlainNameChar c = true := by
    simp [isPlainNameChar, isWordChar_of_isDecimalDigit hdigit]
  rw [not_isBlank_of_isPlainNameChar hplain] at h
  cases h

lemma IsBlanks.head_not_digit {s : List Char} (h : IsBlanks s) (t : List Char) :
    (s ++ t).head?.any isDecimalDigit = false := by
  cases s with
  | nil => exact absurd rfl h.ne_nil
  | cons c s => exact not_isDecimalDigit_of_isBlank (h.blanks c List.mem_cons_self)

lemma after?_cons (c : Char) (s : List Char) : after? [c] (c :: s) = some s :=
  after?_append [c] s

end Text

namespace Diagnostic

open Text

variable {s rest file line place category digits message body : List Char}

lemma someDigits?_append (h : IsDigits s) (hrest : rest.head?.any isDecimalDigit = false) :
    someDigits? (s ++ rest) = some (s, rest) := by
  have hne : s.isEmpty = false := by simpa using h.ne_nil
  rw [someDigits?, spanWhile_append h.digits hrest]
  simp [hne]

lemma exists_of_someDigits? {ds : List Char} (h : someDigits? s = some (ds, rest)) :
    IsDigits ds ∧ s = ds ++ rest := by
  simp only [someDigits?, spanWhile, Option.ite_none_left_eq_some, Option.some.injEq,
    Prod.mk.injEq, List.isEmpty_iff] at h
  obtain ⟨hne, rfl, rfl⟩ := h
  exact ⟨⟨hne, fun c hc => List.mem_takeWhile_imp hc⟩, List.takeWhile_append_dropWhile.symm⟩

lemma someBlanks?_append (h : IsBlanks s) (hrest : rest.head?.any isBlank = false) :
    someBlanks? (s ++ rest) = some rest :=
  afterBlanks?_append h.ne_nil h.blanks hrest

lemma exists_of_someBlanks? (h : someBlanks? s = some rest) :
    ∃ gap, IsBlanks gap ∧ s = gap ++ rest := by
  obtain ⟨gap, hne, hblanks, heq⟩ := afterBlanks?_eq_some h
  exact ⟨gap, ⟨hne, hblanks⟩, heq⟩

/-- The forms of a diagnostic. -/
inductive Form where
  /-- The place is in parentheses. -/
  | plain
  /-- The place is between colons. -/
  | pretty
  deriving DecidableEq

namespace Form

/-- The reader of the places of a form. -/
def place? : Form → List Char → Option (Nat × List Char)
  | .plain => plainPlace?
  | .pretty => prettyPlace?

/-- Whether a text is a place of a form with the given digits of its line, such as `(12,5): ` or
`:12:5 - `. -/
inductive IsPlace : Form → List Char → List Char → Prop
  | plain {line column gap : List Char} (hline : IsDigits line) (hcolumn : IsDigits column)
      (hgap : IsBlanks gap) :
      IsPlace .plain line ('(' :: (line ++ ',' :: (column ++ ')' :: ':' :: gap)))
  | pretty {line column gap more : List Char} (hline : IsDigits line) (hcolumn : IsDigits column)
      (hgap : IsBlanks gap) (hmore : IsBlanks more) :
      IsPlace .pretty line (':' :: (line ++ ':' :: (column ++ (gap ++ '-' :: more))))

variable {form : Form}

lemma place?_append (h : form.IsPlace line place) (hrest : rest.head?.any isBlank = false) :
    form.place? (place ++ rest) = some (lineNumber line, rest) := by
  cases h with
  | @plain _ column gap hline hcolumn hgap =>
    have hcomma (s : List Char) : (',' :: s).head?.any isDecimalDigit = false := rfl
    have hclose (s : List Char) : (')' :: s).head?.any isDecimalDigit = false := rfl
    have hend (s : List Char) : after? [')', ':'] (')' :: ':' :: s) = some s :=
      after?_append [')', ':'] s
    simp only [place?, plainPlace?, List.cons_append, List.append_assoc, after?_cons, hend,
      someDigits?_append hline (hcomma _), someDigits?_append hcolumn (hclose _),
      someBlanks?_append hgap hrest, Option.bind_eq_bind, Option.bind_some]
  | @pretty _ column gap more hline hcolumn hgap hmore =>
    have hcolon (s : List Char) : (':' :: s).head?.any isDecimalDigit = false := rfl
    have hdash (s : List Char) : ('-' :: s).head?.any isBlank = false := rfl
    simp only [place?, prettyPlace?, List.cons_append, List.append_assoc, after?_cons,
      someDigits?_append hline (hcolon _), someDigits?_append hcolumn (hgap.head_not_digit _),
      someBlanks?_append hgap (hdash _), someBlanks?_append hmore hrest, Option.bind_eq_bind,
      Option.bind_some]

lemma exists_of_place? {n : Nat} (h : form.place? s = some (n, rest)) :
    ∃ line place, form.IsPlace line place ∧ s = place ++ rest := by
  cases form with
  | plain =>
    simp only [place?, plainPlace?, Option.bind_eq_bind, Option.bind_eq_some_iff] at h
    obtain ⟨s₁, h₁, ⟨line, s₂⟩, h₂, s₃, h₃, ⟨column, s₄⟩, h₄, s₅, h₅, s₆, h₆, heq⟩ := h
    cases heq
    dsimp only at h₃ h₅
    obtain ⟨hline, rfl⟩ := exists_of_someDigits? h₂
    obtain ⟨hcolumn, rfl⟩ := exists_of_someDigits? h₄
    obtain ⟨gap, hgap, rfl⟩ := exists_of_someBlanks? h₆
    refine ⟨line, _, .plain hline hcolumn hgap, ?_⟩
    simp [after?_eq_some h₁, after?_eq_some h₃, after?_eq_some h₅]
  | pretty =>
    simp only [place?, prettyPlace?, Option.bind_eq_bind, Option.bind_eq_some_iff] at h
    obtain ⟨s₁, h₁, ⟨line, s₂⟩, h₂, s₃, h₃, ⟨column, s₄⟩, h₄, s₅, h₅, s₆, h₆, s₇, h₇, heq⟩ := h
    cases heq
    dsimp only at h₃ h₅
    obtain ⟨hline, rfl⟩ := exists_of_someDigits? h₂
    obtain ⟨hcolumn, rfl⟩ := exists_of_someDigits? h₄
    obtain ⟨gap, hgap, rfl⟩ := exists_of_someBlanks? h₅
    obtain ⟨more, hmore, rfl⟩ := exists_of_someBlanks? h₇
    refine ⟨line, _, .pretty hline hcolumn hgap hmore, ?_⟩
    simp [after?_eq_some h₁, after?_eq_some h₃, after?_eq_some h₆]

end Form

/-- Whether a text is a body: a category, a code with the given digits, and a message behind a
colon. -/
inductive IsBody (category digits message : List Char) : List Char → Prop
  | intro {gap : List Char} (hcategory : category ∈ categories) (hgap : IsBlanks gap)
      (hdigits : IsDigits digits) :
      IsBody category digits message
        (category ++ (gap ++ 'T' :: 'S' :: (digits ++ ':' :: message)))

lemma find?_categories (h : category ∈ categories) (s : List Char) :
    categories.find? (startsWith · (category ++ s)) = some category := by
  simp only [categories, List.map_cons, List.map_nil, List.mem_cons, List.not_mem_nil,
    or_false] at h
  rcases h with rfl | rfl | rfl <;> rfl

lemma head?_category_not_blank (h : category ∈ categories) (s : List Char) :
    (category ++ s).head?.any isBlank = false := by
  simp only [categories, List.map_cons, List.map_nil, List.mem_cons, List.not_mem_nil,
    or_false] at h
  rcases h with rfl | rfl | rfl <;> rfl

lemma IsBody.head?_not_blank (h : IsBody category digits message body) :
    body.head?.any isBlank = false := by
  cases h with
  | intro hcategory => exact head?_category_not_blank hcategory _

lemma body?_of_isBody (h : IsBody category digits message body) :
    body? body = some (String.ofList category, String.ofList ('T' :: 'S' :: digits),
      String.ofList (trimStart message)) := by
  cases h with
  | @intro gap hcategory hgap hdigits =>
    have hletter (s : List Char) : ('T' :: s).head?.any isBlank = false := rfl
    have hcolon (s : List Char) : (':' :: s).head?.any isDecimalDigit = false := rfl
    have hcode (s : List Char) : after? ['T', 'S'] ('T' :: 'S' :: s) = some s :=
      after?_append ['T', 'S'] s
    simp only [body?, find?_categories hcategory, after?_append, someBlanks?_append hgap (hletter _),
      hcode, someDigits?_append hdigits (hcolon _), after?_cons, Option.bind_eq_bind,
      Option.bind_some]

lemma exists_of_body? {found : String × String × String} (h : body? s = some found) :
    ∃ category digits message, IsBody category digits message s := by
  simp only [body?, Option.bind_eq_bind, Option.bind_eq_some_iff] at h
  obtain ⟨category, h₀, s₁, h₁, s₂, h₂, s₃, h₃, ⟨digits, s₄⟩, h₄, message, h₅, -⟩ := h
  dsimp only at h₅
  obtain ⟨gap, hgap, rfl⟩ := exists_of_someBlanks? h₂
  obtain ⟨hdigits, rfl⟩ := exists_of_someDigits? h₄
  have hcategory : category ∈ categories := List.mem_of_find?_eq_some h₀
  refine ⟨category, digits, message, ?_⟩
  rw [after?_eq_some h₁, after?_eq_some h₃, after?_eq_some h₅]
  exact .intro hcategory hgap hdigits

/-- Whether a line is of a form: it has a file, a place and a body. -/
def Form.Matches (form : Form) (s : List Char) : Prop :=
  ∃ file line place category digits message body, file ≠ [] ∧ form.IsPlace line place ∧
    IsBody category digits message body ∧ s = file ++ (place ++ body)

variable {form : Form}

/-- The diagnostic of a line that is split behind its file. -/
def readBehind (form : Form) (split : List Char × List Char) : Option Diagnostic := do
  if split.1.isEmpty then none
  let (number, rest) ← form.place? split.2
  let (category, code, message) ← body? rest
  some ⟨String.ofList (trim split.1), number, category, code, message⟩

lemma ofLineWith?_eq (form : Form) (s : List Char) :
    ofLineWith? form.place? s = (splits s).findSome? (readBehind form) := rfl

lemma readBehind_append (hfile : file ≠ []) (hplace : form.IsPlace line place)
    (hbody : IsBody category digits message body) :
    readBehind form (file, place ++ body) =
      some ⟨String.ofList (trim file), lineNumber line, String.ofList category,
        String.ofList ('T' :: 'S' :: digits), String.ofList (trimStart message)⟩ := by
  have hne : file.isEmpty = false := by simpa using hfile
  rw [readBehind, hne, Form.place?_append hplace hbody.head?_not_blank]
  simp [body?_of_isBody hbody]

lemma exists_of_readBehind {d : Diagnostic} (h : readBehind form (file, rest) = some d) :
    file ≠ [] ∧ ∃ line place category digits message body, form.IsPlace line place ∧
      IsBody category digits message body ∧ rest = place ++ body := by
  simp only [readBehind, Option.bind_eq_bind, Option.bind_none, Option.ite_none_left_eq_some,
    Option.bind_eq_some_iff, List.isEmpty_iff] at h
  obtain ⟨hfile, ⟨n, body⟩, hfound, found, hread, -⟩ := h
  obtain ⟨line, place, hplace, rfl⟩ := Form.exists_of_place? hfound
  obtain ⟨category, digits, message, hbody⟩ := exists_of_body? hread
  exact ⟨hfile, line, place, category, digits, message, _, hplace, hbody, rfl⟩

/-- No diagnostic is read from a line just if it is not of the form. -/
lemma ofLineWith?_eq_none_iff : ofLineWith? form.place? s = none ↔ ¬form.Matches s := by
  rw [ofLineWith?_eq, List.findSome?_eq_none_iff]
  constructor
  · rintro h ⟨file, line, place, category, digits, message, body, hfile, hplace, hbody, rfl⟩
    have hread := h (file, place ++ body) (Modules.mem_splits_iff.mpr rfl)
    rw [readBehind_append hfile hplace hbody] at hread
    cases hread
  · rintro h ⟨file, rest⟩ hsplit
    rw [Option.eq_none_iff_forall_ne_some]
    intro d hd
    obtain ⟨hfile, line, place, category, digits, message, body, hplace, hbody, rfl⟩ :=
      exists_of_readBehind hd
    exact h ⟨file, line, place, category, digits, message, body, hfile, hplace, hbody,
      Modules.mem_splits_iff.mp hsplit⟩

/-- The diagnostic of a line is the one behind its file, if no place starts within the file. -/
theorem ofLineWith?_append (hfile : file ≠ []) (hplace : form.IsPlace line place)
    (hbody : IsBody category digits message body)
    (hfirst : ∀ front back, file = front ++ back → back ≠ [] →
      form.place? (back ++ (place ++ body)) = none) :
    ofLineWith? form.place? (file ++ (place ++ body)) =
      some ⟨String.ofList (trim file), lineNumber line, String.ofList category,
        String.ofList ('T' :: 'S' :: digits), String.ofList (trimStart message)⟩ := by
  rw [ofLineWith?_eq]
  refine findSome?_splits_append (readBehind_append hfile hplace hbody) ?_
  intro front back heq hback
  simp [readBehind, hfirst front back heq hback]

/-- The message of a body is what stands behind one of its colons, and can be any text. -/
lemma IsBody.exists_front (h : IsBody category digits message body) :
    ∃ front, body = front ++ ':' :: message ∧
      ∀ other, IsBody category digits other (front ++ ':' :: other) := by
  cases h with
  | @intro gap hcategory hgap hdigits =>
    refine ⟨category ++ (gap ++ 'T' :: 'S' :: digits), by simp, fun other => ?_⟩
    have hother : IsBody category digits other
        (category ++ (gap ++ 'T' :: 'S' :: (digits ++ ':' :: other))) :=
      .intro hcategory hgap hdigits
    simpa using hother

lemma IsBody.append (h : IsBody category digits message body) (s : List Char) :
    IsBody category digits (message ++ s) (body ++ s) := by
  obtain ⟨front, rfl, hfront⟩ := h.exists_front
  simpa using hfront (message ++ s)

lemma IsBody.trimEnd (h : IsBody category digits message body) :
    IsBody category digits (trimEnd message) (trimEnd body) := by
  obtain ⟨front, rfl, hfront⟩ := h.exists_front
  rw [trimEnd_append_cons rfl]
  exact hfront _

lemma IsBody.trimEnd_append (h : IsBody category digits message body) (s : List Char) :
    Text.trimEnd (s ++ body) = s ++ Text.trimEnd body := by
  obtain ⟨front, rfl, -⟩ := h.exists_front
  rw [trimEnd_append_cons rfl, ← List.append_assoc, trimEnd_append_cons rfl, List.append_assoc]

/-- Blanks at the end of a line do not matter for its form. -/
lemma Form.matches_trimEnd_iff : form.Matches (trimEnd s) ↔ form.Matches s := by
  constructor
  · rintro ⟨file, line, place, category, digits, message, body, hfile, hplace, hbody, heq⟩
    obtain ⟨blanks, -, hs⟩ := exists_append_trimEnd s
    refine ⟨file, line, place, category, digits, _, _, hfile, hplace, hbody.append blanks, ?_⟩
    rw [hs, heq]
    simp
  · rintro ⟨file, line, place, category, digits, message, body, hfile, hplace, hbody, rfl⟩
    refine ⟨file, line, place, category, digits, _, _, hfile, hplace, hbody.trimEnd, ?_⟩
    rw [← List.append_assoc, hbody.trimEnd_append, List.append_assoc]

lemma ofLine?_eq (s : List Char) :
    ofLine? s = (ofLineWith? Form.plain.place? (trimEnd s) <|>
      ofLineWith? Form.pretty.place? (trimEnd s)) := rfl

/-- No diagnostic is read from a line just if it is of neither form. -/
theorem ofLine?_eq_none_iff : ofLine? s = none ↔ ∀ form : Form, ¬form.Matches s := by
  have hnone (form : Form) : ofLineWith? form.place? (trimEnd s) = none ↔ ¬form.Matches s := by
    rw [ofLineWith?_eq_none_iff, Form.matches_trimEnd_iff]
  rw [ofLine?_eq, Option.orElse_eq_none, hnone, hnone]
  constructor
  · rintro ⟨hplain, hpretty⟩ form
    cases form with
    | plain => exact hplain
    | pretty => exact hpretty
  · exact fun h => ⟨h .plain, h .pretty⟩

end Diagnostic

end GapAudit
