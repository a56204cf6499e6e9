import Mathlib
import GapAudit.Proofs.Decimal.DataText
import GapAudit.Proofs.Typecheck.Forms
import GapAudit.Typecheck.Outcome

/-!
# Reading the output of a type checker

Diagnostics that are written in either form, among lines of neither form, are read back from the
output (`ofOutput_of_isJoined`). An output is read line by line, so that nothing is lost or made up
where two outputs are put together on lines of their own (`ofOutput_append`). The main statement
puts these together (`ofOutput_exact`).
-/

namespace GapAudit

namespace Diagnostic

open Text

variable {s file line place front back : List Char}

/-- A diagnostic as it is written in a form. -/
def render (column : Nat) (d : Diagnostic) : Form → String
  | .plain => s!"{d.file}({d.line},{column}): {d.category} {d.code}: {d.message}"
  | .pretty => s!"{d.file}:{d.line}:{column} - {d.category} {d.code}: {d.message}"

/-- Whether the parts of a diagnostic can be told from each other where it is written. -/
structure IsWritable (d : Diagnostic) : Prop where
  file_ne : d.file.toList ≠ []
  file_trimmed : IsTrimmed d.file.toList
  file_line : '\n' ∉ d.file.toList
  line_lt : d.line < 2 ^ 64
  category_mem : d.category ∈ ["error", "warning", "message"]
  code_eq : ∃ digits, IsDigits digits ∧ d.code.toList = 'T' :: 'S' :: digits
  message_trimmed : IsTrimmed d.message.toList
  message_line : '\n' ∉ d.message.toList

/-- Whether a place in parentheses stands in a text. -/
def HoldsPlace (s : List Char) : Prop :=
  ∃ before line column after, IsDigits line ∧ IsDigits column ∧
    s = before ++ '(' :: (line ++ ',' :: (column ++ ')' :: ':' :: after))

/-- Whether a colon with a digit behind it stands in a text. -/
def HoldsColonDigit (s : List Char) : Prop :=
  ∃ before c after, isDecimalDigit c = true ∧ s = before ++ ':' :: c :: after

lemma HoldsColonDigit.mem {s : List Char} (h : HoldsColonDigit s) : ':' ∈ s := by
  obtain ⟨before, c, after, -, rfl⟩ := h
  simp

/-- Whether a file cannot be taken to end too early in a line of the given form: the file holds no
place of this form, and a line in the other form holds none in parentheses at all. -/
def Form.Separates (file line : List Char) : Form → Prop
  | .plain => ¬HoldsPlace file
  | .pretty => ¬HoldsColonDigit file ∧ ¬HoldsPlace line

lemma HoldsPlace.mem {s : List Char} (h : HoldsPlace s) : '(' ∈ s ∧ ':' ∈ s := by
  obtain ⟨before, line, column, after, -, -, rfl⟩ := h
  simp

lemma isDecimalDigit_of_isAsciiDigit {c : Char} (h : isAsciiDigit c = true) :
    isDecimalDigit c = true := by
  rw [isDecimalDigit, if_pos (Source.toNat_lt_of_isAsciiDigit h), h]

lemma isDigits_toDigits (n : Nat) : IsDigits (Nat.toDigits 10 n) :=
  ⟨Nat.toDigits_ne_nil, fun _ hc =>
    isDecimalDigit_of_isAsciiDigit (Decimal.isAsciiDigit_of_mem_toDigits hc)⟩

lemma lineNumber_toDigits {n : Nat} (h : n < 2 ^ 64) : lineNumber (Nat.toDigits 10 n) = n := by
  have hall : (Nat.toDigits 10 n).all isAsciiDigit = true :=
    List.all_eq_true.mpr fun c hc => Decimal.isAsciiDigit_of_mem_toDigits hc
  have hvalue := @Nat.ofDigitChars_ten_toDigits n
  rw [Nat.ofDigitChars_eq_foldl] at hvalue
  simp only [Nat.mul_comm 10] at hvalue
  rw [lineNumber, if_pos hall, hvalue]
  exact if_pos h

/-- A text without a character ends before the first such character. -/
lemma exists_append_of_not_mem {c : Char} {s t u v : List Char} (h : s ++ c :: t = u ++ v)
    (hu : c ∉ u) : ∃ more, s = u ++ more := by
  rcases List.append_eq_append_iff.mp h with ⟨more, rfl, hmore⟩ | ⟨more, rfl, -⟩
  · cases more with
    | nil => exact ⟨[], by simp⟩
    | cons d more =>
      obtain ⟨rfl, -⟩ := List.cons_eq_cons.mp hmore
      simp at hu
  · exact ⟨more, rfl⟩

lemma place?_plain_eq_none (hfile : ¬HoldsPlace (front ++ back)) (hback : back ≠ [])
    (hplace : Form.plain.IsPlace line place) (rest : List Char) :
    Form.plain.place? (back ++ (place ++ rest)) = none := by
  rw [Option.eq_none_iff_forall_ne_some]
  rintro ⟨n, behind⟩ hread
  obtain ⟨other, found, hfound, heq⟩ := Form.exists_of_place? hread
  obtain ⟨c, back, rfl⟩ := List.exists_cons_of_ne_nil hback
  cases hplace with
  | plain =>
    cases hfound with
    | @plain _ column gap hother hcolumn =>
      -- The place that is found has one parenthesis that opens, so it ends before the true place.
      have hopen : isDecimalDigit '(' = false := rfl
      have hinside : '(' ∉ other ++ ',' :: (column ++ [')', ':']) := by
        simp [hother.not_mem hopen, hcolumn.not_mem hopen]
      simp only [List.cons_append, List.cons.injEq, List.append_assoc] at heq
      obtain ⟨rfl, heq⟩ := heq
      have hcut : other ++ ',' :: (column ++ ')' :: ':' :: (gap ++ behind)) =
          other ++ ',' :: (column ++ [')', ':']) ++ (gap ++ behind) := by simp
      obtain ⟨more, rfl⟩ := exists_append_of_not_mem (heq.trans hcut) hinside
      exact hfile ⟨front, other, column, more, hother, hcolumn, by simp⟩

lemma place?_pretty_eq_none (hfile : ¬HoldsColonDigit (front ++ back)) (hback : back ≠ [])
    (hplace : Form.pretty.IsPlace line place) (rest : List Char) :
    Form.pretty.place? (back ++ (place ++ rest)) = none := by
  rw [Option.eq_none_iff_forall_ne_some]
  rintro ⟨n, behind⟩ hread
  obtain ⟨other, found, hfound, heq⟩ := Form.exists_of_place? hread
  obtain ⟨c, back, rfl⟩ := List.exists_cons_of_ne_nil hback
  cases hplace with
  | pretty =>
    cases hfound with
    | pretty hother =>
      -- The place that is found starts with a colon and a digit, and the true one is no digit.
      obtain ⟨d, ds, rfl⟩ := List.exists_cons_of_ne_nil hother.ne_nil
      have hd : isDecimalDigit d = true := hother.digits d List.mem_cons_self
      simp only [List.cons_append, List.cons.injEq] at heq
      obtain ⟨rfl, heq⟩ := heq
      cases back with
      | nil =>
        obtain ⟨rfl, -⟩ := List.cons_eq_cons.mp heq
        exact absurd hd (by decide)
      | cons e back =>
        obtain ⟨rfl, -⟩ := List.cons_eq_cons.mp heq
        exact hfile ⟨front, e, back, hd, rfl⟩

lemma Form.Separates.place?_eq_none {form : Form} {text : List Char}
    (h : form.Separates (front ++ back) text) (hback : back ≠ []) (hplace : form.IsPlace line place)
    (rest : List Char) : form.place? (back ++ (place ++ rest)) = none := by
  cases form with
  | plain => exact place?_plain_eq_none h hback hplace rest
  | pretty => exact place?_pretty_eq_none h.1 hback hplace rest

lemma HoldsPlace.of_matches (h : Form.plain.Matches s) : HoldsPlace s := by
  obtain ⟨file, line, place, category, digits, message, body, -, hplace, -, rfl⟩ := h
  cases hplace with
  | @plain _ column gap hline hcolumn =>
    exact ⟨file, line, column, gap ++ body, hline, hcolumn, by simp⟩

/-- A diagnostic that is written has its file, its place and a body. -/
lemma exists_render {d : Diagnostic} (hd : d.IsWritable) (column : Nat) (form : Form) :
    ∃ place digits body, form.IsPlace (Nat.toDigits 10 d.line) place ∧
      IsBody d.category.toList digits (' ' :: d.message.toList) body ∧
      d.code.toList = 'T' :: 'S' :: digits ∧
      (d.render column form).toList = d.file.toList ++ (place ++ body) := by
  obtain ⟨digits, hdigits, hcode⟩ := hd.code_eq
  have hcategory : d.category.toList ∈ categories := List.mem_map_of_mem hd.category_mem
  have hbody : IsBody d.category.toList digits (' ' :: d.message.toList)
      (d.category.toList ++ ([' '] ++ 'T' :: 'S' :: (digits ++ ':' :: ' ' :: d.message.toList))) :=
    .intro hcategory isBlanks_space hdigits
  have htext (s : String) : toString s = s := rfl
  cases form with
  | plain =>
    refine ⟨_, digits, _, .plain (isDigits_toDigits d.line) (isDigits_toDigits column)
      isBlanks_space, hbody, hcode, ?_⟩
    simp [render, htext, hcode]
  | pretty =>
    refine ⟨_, digits, _, .pretty (isDigits_toDigits d.line) (isDigits_toDigits column)
      isBlanks_space isBlanks_space, hbody, hcode, ?_⟩
    simp [render, htext, hcode]

lemma ofLineWith?_render {d : Diagnostic} (hd : d.IsWritable) {column : Nat} {form : Form}
    (hform : form.Separates d.file.toList (d.render column form).toList) :
    ofLineWith? form.place? (trimEnd (d.render column form).toList) = some d := by
  obtain ⟨place, digits, body, hplace, hbody, hcode, hrender⟩ := exists_render hd column form
  have hfirst : ∀ front back, d.file.toList = front ++ back → back ≠ [] →
      form.place? (back ++ (place ++ trimEnd body)) = none := by
    intro front back heq hback
    rw [heq] at hform
    exact hform.place?_eq_none hback hplace _
  have hread := ofLineWith?_append hd.file_ne hplace hbody.trimEnd hfirst
  rw [hd.file_trimmed.trim_eq, lineNumber_toDigits hd.line_lt, ← hcode,
    hd.message_trimmed.trimStart_trimEnd_cons rfl] at hread
  rw [hrender, ← List.append_assoc, hbody.trimEnd_append, List.append_assoc, hread]
  simp

/-- What is written is read. -/
theorem ofLine?_render {d : Diagnostic} (hd : d.IsWritable) {column : Nat} {form : Form}
    (hform : form.Separates d.file.toList (d.render column form).toList) :
    ofLine? (d.render column form).toList = some d := by
  have hread := ofLineWith?_render hd hform
  cases form with
  | plain =>
    rw [ofLine?_eq, hread]
    rfl
  | pretty =>
    have hplain : ofLineWith? Form.plain.place? (trimEnd (d.render column .pretty).toList) = none :=
      ofLineWith?_eq_none_iff.mpr fun hmatches =>
        hform.2 (HoldsPlace.of_matches (Form.matches_trimEnd_iff.mp hmatches))
    rw [ofLine?_eq, hplain, hread]
    rfl

lemma newline_not_mem_render {d : Diagnostic} (hd : d.IsWritable) (column : Nat) (form : Form) :
    '\n' ∉ (d.render column form).toList := by
  obtain ⟨digits, hdigits, hcode⟩ := hd.code_eq
  have hcategory : '\n' ∉ d.category.toList := by
    have hcategories : ∀ category ∈ ["error", "warning", "message"], '\n' ∉ category.toList := by
      decide
    exact hcategories _ hd.category_mem
  have hnewline : isDecimalDigit '\n' = false := rfl
  have htext (s : String) : toString s = s := rfl
  cases form <;> simp [render, htext, hcode, hd.file_line, hd.message_line, hcategory,
    hdigits.not_mem hnewline, (isDigits_toDigits _).not_mem hnewline]

lemma ofLine?_append_return (line : List Char) : ofLine? (line ++ ['\r']) = ofLine? line := by
  have hreturn : ∀ c ∈ ['\r'], isBlank c = true := by simp [isBlank]
  rw [ofLine?, ofLine?, trimEnd_append_blanks hreturn]

lemma ofOutput_eq (output : String) :
    ofOutput output = (splitAt '\n' output.toList).filterMap ofLine? :=
  filterMap_lines ofLine?_append_return rfl _

/-- Two outputs on lines of their own are read one after the other. -/
theorem ofOutput_append (a b : String) :
    ofOutput (a ++ "\n" ++ b) = ofOutput a ++ ofOutput b := by
  have hlist : (a ++ "\n" ++ b).toList = a.toList ++ '\n' :: b.toList := by simp
  rw [ofOutput_eq, ofOutput_eq, ofOutput_eq, hlist, splitAt_append, List.filterMap_append]

lemma ofOutput_of_not_mem {line : String} (h : '\n' ∉ line.toList) :
    ofOutput line = [line].filterMap (ofLine? ·.toList) := by
  rw [ofOutput_eq, splitAt_of_not_mem h]
  rfl

/-- The ending of a line is not read. -/
lemma ofOutput_append_of_ending {line ending : String} (hline : '\n' ∉ line.toList)
    (hending : ending ∈ ["\n", "\r\n"]) (text : String) :
    ofOutput (line ++ ending ++ text) = ofOutput line ++ ofOutput text := by
  simp only [List.mem_cons, List.not_mem_nil, or_false] at hending
  rcases hending with rfl | rfl
  · exact ofOutput_append line text
  · have hreturn : line ++ "\r\n" ++ text = line ++ "\r" ++ "\n" ++ text := by
      simp [← String.toList_inj]
    have hlonger : '\n' ∉ (line ++ "\r").toList := by simpa using hline
    have hlist : (line ++ "\r").toList = line.toList ++ ['\r'] := by simp
    rw [hreturn, ofOutput_append, ofOutput_of_not_mem hlonger, ofOutput_of_not_mem hline]
    simp only [List.filterMap_cons, hlist, ofLine?_append_return]

/-- Whether a text consists of lines, each with a line feed behind it, or a carriage return and a
line feed; the last line may do without. -/
inductive IsJoined : List String → String → Prop
  | nil : IsJoined [] ""
  | last (line : String) : IsJoined [line] line
  | cons {lines : List String} {text : String} (line : String) {ending : String}
      (hending : ending ∈ ["\n", "\r\n"]) (h : IsJoined lines text) :
      IsJoined (line :: lines) (line ++ ending ++ text)

/-- An output is read line by line. -/
theorem ofOutput_of_isJoined {lines : List String} {text : String} (h : IsJoined lines text)
    (hlines : ∀ line ∈ lines, '\n' ∉ line.toList) :
    ofOutput text = lines.filterMap (ofLine? ·.toList) := by
  induction h with
  | nil => rfl
  | last line => exact ofOutput_of_not_mem (hlines line List.mem_cons_self)
  | @cons lines text line ending hending _ ih =>
    obtain ⟨hline, hlines⟩ := List.forall_mem_cons.mp hlines
    rw [ofOutput_append_of_ending hline hending, ih hlines, ofOutput_of_not_mem hline,
      ← List.filterMap_append, List.singleton_append]

/-- A line of an output: a diagnostic in a form, or another text. -/
inductive OutputLine where
  | diagnostic (form : Form) (column : Nat) (d : Diagnostic)
  | other (text : String)

namespace OutputLine

def text : OutputLine → String
  | .diagnostic form column d => d.render column form
  | .other text => text

def diagnostic? : OutputLine → Option Diagnostic
  | .diagnostic _ _ d => some d
  | .other _ => none

/-- Whether a line is what it should be: a diagnostic can be read, and another text is one line of
neither form. -/
def IsReadable : OutputLine → Prop
  | .diagnostic form column d =>
    d.IsWritable ∧ form.Separates d.file.toList (d.render column form).toList
  | .other text => '\n' ∉ text.toList ∧ ∀ form : Form, ¬form.Matches text.toList

lemma IsReadable.newline_not_mem {line : OutputLine} (h : line.IsReadable) :
    '\n' ∉ line.text.toList := by
  cases line with
  | diagnostic form column d => exact newline_not_mem_render h.1 column form
  | other text => exact h.1

lemma IsReadable.ofLine?_text {line : OutputLine} (h : line.IsReadable) :
    ofLine? line.text.toList = line.diagnostic? := by
  cases line with
  | diagnostic form column d => exact ofLine?_render h.1 h.2
  | other text => exact ofLine?_eq_none_iff.mpr h.2

end OutputLine

/-- The diagnostics among the lines of an output are read back. -/
theorem ofOutput_text {lines : List OutputLine} {text : String}
    (h : IsJoined (lines.map OutputLine.text) text) (hlines : ∀ line ∈ lines, line.IsReadable) :
    ofOutput text = lines.filterMap OutputLine.diagnostic? := by
  rw [ofOutput_of_isJoined h, List.filterMap_map]
  · exact List.filterMap_congr fun line hline => (hlines line hline).ofLine?_text
  · simpa using fun line hline => (hlines line hline).newline_not_mem

end Diagnostic

namespace TypecheckOutcome

open Diagnostic Text

/-- The output and the complaints of a program are both read, one after the other. -/
lemma ofOutput_eq_checked (output : ProgramOutput) :
    ofOutput output = .checked (Diagnostic.ofOutput (decodeLossy output.out) ++
      Diagnostic.ofOutput (decodeLossy output.err)) :=
  congrArg checked (ofOutput_append _ _)

lemma problemCount_append (first second : List Diagnostic) :
    problemCount (.checked (first ++ second)) =
      problemCount (.checked first) + problemCount (.checked second) :=
  List.countP_append

/-- Just the diagnostics that are written are read, and outputs on lines of their own are read one
after the other. -/
theorem ofOutput_exact :
    (∀ (lines : List OutputLine) (text : String), (∀ line ∈ lines, line.IsReadable) →
      IsJoined (lines.map OutputLine.text) text →
        Diagnostic.ofOutput text = lines.filterMap OutputLine.diagnostic?) ∧
      (∀ a b : String,
        Diagnostic.ofOutput (a ++ "\n" ++ b) = Diagnostic.ofOutput a ++ Diagnostic.ofOutput b ∧
          problemCount (.checked (Diagnostic.ofOutput (a ++ "\n" ++ b))) =
            problemCount (.checked (Diagnostic.ofOutput a)) +
              problemCount (.checked (Diagnostic.ofOutput b))) ∧
      ∀ output : ProgramOutput,
        ofOutput output = .checked (Diagnostic.ofOutput (decodeLossy output.out) ++
          Diagnostic.ofOutput (decodeLossy output.err)) := by
  refine ⟨fun lines text hlines htext => ?_, fun a b => ⟨ofOutput_append a b, ?_⟩, ?_⟩
  · exact ofOutput_text htext hlines
  · rw [ofOutput_append, problemCount_append]
  · exact ofOutput_eq_checked

theorem ofOutput_exact_mixed :
    let first : Diagnostic := ⟨"src/(main)/App.tsx", 12, "error", "TS2322", "See f(1,2): error."⟩
    let second : Diagnostic := ⟨"src/lib/api.ts", 3, "message", "TS6133", ""⟩
    let lines : List OutputLine :=
      [.diagnostic .plain 5 first, .other "Found 2 errors:", .diagnostic .pretty 1 second]
    let text := "src/(main)/App.tsx(12,5): error TS2322: See f(1,2): error.\r\n" ++
      "Found 2 errors:\n" ++ "src/lib/api.ts:3:1 - message TS6133: "
    (∀ line ∈ lines, line.IsReadable) ∧ IsJoined (lines.map OutputLine.text) text ∧
      Diagnostic.ofOutput text = [first, second] ∧
      problemCount (.checked (Diagnostic.ofOutput (text ++ "\n" ++ text))) = 2 := by
  intro first second lines text
  have hfirst : first.IsWritable := by
    refine ⟨by decide, by decide, by decide, by decide, by decide, ?_, by decide, by decide⟩
    exact ⟨_, isDigits_toDigits 2322, by decide⟩
  have hsecond : second.IsWritable := by
    refine ⟨by decide, by decide, by decide, by decide, by decide, ?_, by decide, by decide⟩
    exact ⟨_, isDigits_toDigits 6133, by decide⟩
  have hlines : ∀ line ∈ lines, line.IsReadable := by
    refine List.forall_mem_cons.mpr ⟨⟨hfirst, fun h => ?_⟩, List.forall_mem_cons.mpr
      ⟨⟨by decide, ?_⟩, List.forall_mem_cons.mpr ⟨⟨hsecond, fun h => ?_, fun h => ?_⟩, by simp⟩⟩⟩
    · exact absurd h.mem.2 (by decide)
    · exact ofLine?_eq_none_iff.mp (by decide +kernel)
    · exact absurd h.mem (by decide)
    · exact absurd h.mem.1 (by decide +kernel)
  have htext : IsJoined (lines.map OutputLine.text) text := by
    have hmore := IsJoined.cons "Found 2 errors:" List.mem_cons_self
      (.last (second.render 1 .pretty))
    have hjoined := IsJoined.cons (first.render 5 .plain)
      (List.mem_cons_of_mem "\n" List.mem_cons_self) hmore
    have heq : text = first.render 5 .plain ++ "\r\n" ++
        ("Found 2 errors:" ++ "\n" ++ second.render 1 .pretty) := by decide +kernel
    rw [heq]
    exact hjoined
  obtain ⟨hread, happend, -⟩ := ofOutput_exact
  have hboth : Diagnostic.ofOutput text = [first, second] := hread lines text hlines htext
  refine ⟨hlines, htext, hboth, ?_⟩
  rw [(happend text text).2, hboth]
  decide +kernel

end TypecheckOutcome

end GapAudit
