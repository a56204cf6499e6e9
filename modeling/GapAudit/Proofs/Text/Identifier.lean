import Mathlib.Data.List.Basic
import GapAudit.Components.Inspection
import GapAudit.Proofs.Source.Characters
import GapAudit.Proofs.Text.Scan
import GapAudit.Proofs.Text.Word

/-!
# Names that occur as whole identifiers

A name is used in a text if it occurs there with no character of an identifier next to it. A search
for matches that do not overlap sees all of these occurrences just if the name overlaps itself
behind characters of identifiers only (`forall_identifierUsed_iff`). Where no name runs on, a text
can be cut without an occurrence being lost or made (`occursWhole_append_iff`).
-/

namespace GapAudit

namespace Text

/-- Whether a name occurs in a text with no character of an identifier next to it. -/
def OccursWhole (name s : List Char) : Prop :=
  ∃ before after, s = before ++ (name ++ after) ∧
    before.getLast?.any isIdentifierChar = false ∧ after.head?.any isIdentifierChar = false

/-- Whether a name that overlaps itself does so behind a character of an identifier only. So does
every name that consists of such characters. -/
def OverlapsInside (name : List Char) : Prop :=
  ∀ front back, name = front ++ back → front ≠ [] → back ≠ [] → back <+: name →
    front.getLast?.any isIdentifierChar = true

lemma overlapsInside_of_all {name : List Char} (h : ∀ c ∈ name, isIdentifierChar c = true) :
    OverlapsInside name := by
  rintro front back rfl hfront - -
  rw [List.getLast?_eq_some_getLast hfront, Option.any_some]
  exact h _ (List.mem_append_left back (List.getLast_mem hfront))

lemma occurrence?_append {name rest : List Char} {before : Option Char}
    (hbefore : before.any isIdentifierChar = false)
    (hrest : rest.head?.any isIdentifierChar = false) :
    occurrence? name before (name ++ rest) = some (true, rest) := by
  rw [occurrence?, after?_append, Option.map_some, hbefore, hrest]
  rfl

lemma occurrence?_eq_some {name s rest : List Char} {before : Option Char} {whole : Bool}
    (h : occurrence? name before s = some (whole, rest)) :
    s = name ++ rest ∧
      (whole = true → before.any isIdentifierChar = false ∧
        rest.head?.any isIdentifierChar = false) := by
  obtain ⟨found, hfound, heq⟩ := Option.map_eq_some_iff.mp h
  cases heq
  refine ⟨after?_eq_some hfound, fun hwhole => ?_⟩
  simpa using hwhole

/-- No match that begins before a whole occurrence reaches into it. -/
lemma OverlapsInside.not_overlaps {name u rest : List Char} (h : OverlapsInside name)
    (hu : u.getLast?.any isIdentifierChar = false) (other : Bool) :
    ¬Overlaps (occurrence? name) none u (name ++ rest) other := by
  rintro ⟨front, back, left, rfl, hback, hfind, hleft⟩
  obtain ⟨heq, -⟩ := occurrence?_eq_some hfind
  have hlast : back.getLast?.any isIdentifierChar = false := by
    rwa [List.getLast?_append_of_ne_nil front hback] at hu
  -- The name of the match begins with `back`, and goes on with the beginning of the name itself.
  have hlength : back.length < name.length := by
    have htotal := congrArg List.length heq
    simp only [List.length_append] at htotal hleft
    omega
  obtain ⟨more, hname, hmore⟩ : ∃ more, name = back ++ more ∧ name ++ rest = more ++ left := by
    rcases List.append_eq_append_iff.mp heq with ⟨more, hname, hmore⟩ | ⟨more, hname, -⟩
    · exact ⟨more, hname, hmore⟩
    · have hle : name.length ≤ back.length := by simp [hname]
      omega
  have hne : more ≠ [] := by
    rintro rfl
    rw [List.append_nil] at hname
    rw [hname] at hlength
    exact Nat.lt_irrefl _ hlength
  have hprefix : more <+: name := by
    have hlong : more <+: name ++ rest := ⟨left, hmore.symm⟩
    apply List.prefix_of_prefix_length_le hlong (List.prefix_append name rest)
    simp [hname]
  have hidentifier := h back more hname hback hne hprefix
  rw [hlast] at hidentifier
  cases hidentifier

/-- A name is found as an identifier just if it occurs as a whole. -/
theorem identifierUsed_iff {name : List Char} (hne : name ≠ []) (h : OverlapsInside name)
    (text : List Char) : identifierUsed text name = true ↔ OccursWhole name text := by
  unfold identifierUsed
  constructor
  · intro hused
    obtain ⟨whole, hmem, hwhole⟩ := List.any_eq_true.mp hused
    obtain ⟨u, v, rest, rfl, hfind⟩ := exists_of_mem_scan hmem
    obtain ⟨rfl, hapart⟩ := occurrence?_eq_some hfind
    exact ⟨u, rest, rfl, hapart hwhole⟩
  · rintro ⟨before, after, rfl, hbefore, hafter⟩
    have hfind : occurrence? name before.getLast? (name ++ after) = some (true, after) :=
      occurrence?_append hbefore hafter
    obtain hmem | ⟨other, -, hover⟩ := mem_scan_or_overlaps hfind (by simp [hne])
    · exact List.any_eq_true.mpr ⟨true, hmem, rfl⟩
    · exact absurd hover (h.not_overlaps hbefore other)

lemma occurrence?_of_length_lt {name s : List Char} (h : s.length < name.length)
    (before : Option Char) : occurrence? name before s = none := by
  rw [occurrence?, Option.map_eq_none_iff, after?_eq_none_iff]
  exact fun hbegins => Nat.not_lt.mpr hbegins.length_le h

lemma scanFrom_occurrence?_of_length_lt {name s : List Char} {skip : Nat}
    (h : s.length < name.length + skip) (before : Option Char) :
    scanFrom (occurrence? name) skip before s = [] := by
  induction s generalizing skip before with
  | nil => unfold scanFrom; rfl
  | cons c s ih =>
    rw [List.length_cons] at h
    cases skip with
    | succ skip => exact ih (by omega) (some c)
    | zero =>
      have hshort : (c :: s).length < name.length := by
        rw [List.length_cons]
        omega
      rw [scanFrom, occurrence?_of_length_lt hshort]
      exact ih (by omega) (some c)

lemma eq_of_prefix_cons {a : Char} {name more : List Char} (h : name <+: a :: (name ++ more)) :
    ∀ c ∈ name, c = a := by
  induction name generalizing a with
  | nil => simp
  | cons first name ih =>
    rw [List.cons_append, List.cons_prefix_cons] at h
    obtain ⟨rfl, hmore⟩ := h
    exact List.forall_mem_cons.mpr ⟨rfl, ih hmore⟩

/-- Behind a letter, an occurrence of a name is not whole, but it takes the place of all that begin
within it. -/
lemma scan_occurrence?_letter {name more : List Char} {c : Char} (hmem : c ∈ name) (hc : c ≠ 'a')
    (hshort : more.length < name.length) :
    scan (occurrence? name) ('a' :: (name ++ more)) = [false] := by
  have hletter : occurrence? name none ('a' :: (name ++ more)) = none := by
    rw [occurrence?, Option.map_eq_none_iff, after?_eq_none_iff]
    exact fun hbegins => hc (eq_of_prefix_cons hbegins c hmem)
  have hbehind : occurrence? name (some 'a') (name ++ more) = some (false, more) := by
    rw [occurrence?, after?_append, Option.map_some]
    rfl
  obtain ⟨first, name, rfl⟩ := List.exists_cons_of_ne_nil (List.ne_nil_of_mem hmem)
  have hrest (before : Option Char) : scanFrom (occurrence? (first :: name))
      ((name ++ more).length - more.length) before (name ++ more) = [] := by
    apply scanFrom_occurrence?_of_length_lt
    rw [List.length_cons] at hshort ⊢
    rw [List.length_append]
    omega
  rw [List.cons_append] at hletter hbehind
  rw [List.cons_append, scan, scanFrom, hletter]
  dsimp only
  rw [scanFrom, hbehind]
  dsimp only
  rw [hrest]

/-- The search sees every whole occurrence of a name in every text just if the name overlaps itself
behind characters of identifiers only. -/
theorem forall_identifierUsed_iff {name : List Char} (hne : name ≠ []) :
    (∀ text, identifierUsed text name = true ↔ OccursWhole name text) ↔ OverlapsInside name := by
  refine ⟨?_, identifierUsed_iff hne⟩
  rintro hexact front back rfl hfront hback ⟨more, hmore⟩
  by_contra hlast
  rw [Bool.not_eq_true] at hlast
  -- The text has the name where its own end begins another, and a letter before both.
  have hwhole : OccursWhole (front ++ back) ('a' :: (front ++ (front ++ back))) := by
    refine ⟨'a' :: front, [], by simp, ?_, rfl⟩
    rwa [List.getLast?_cons_of_ne_nil hfront]
  have htext : front ++ (front ++ back) = front ++ back ++ more := by
    rw [List.append_assoc, hmore]
  have hother : front.getLast hfront ≠ 'a' := by
    intro heq
    rw [List.getLast?_eq_some_getLast hfront, Option.any_some, heq] at hlast
    revert hlast
    decide
  have hshort : more.length < (front ++ back).length := by
    have hlength := congrArg List.length hmore
    have hpos := List.length_pos_iff.mpr hback
    simp only [List.length_append] at hlength ⊢
    omega
  have hused := (hexact _).mpr hwhole
  rw [identifierUsed, htext, scan_occurrence?_letter
    (List.mem_append_left back (List.getLast_mem hfront)) hother hshort] at hused
  cases hused

end Text

namespace Source

open Text

/-- Whether no name runs on from the end of a text to the beginning of another. -/
def Apart (a b : List Char) : Prop :=
  ¬(a.getLast?.any isNameChar = true ∧ b.head?.any isNameChar = true)

instance (a b : List Char) : Decidable (Apart a b) :=
  inferInstanceAs (Decidable ¬_)

/-- Whether a text is not empty and consists of characters of names. -/
structure IsName (name : List Char) : Prop where
  ne_nil : name ≠ []
  chars : ∀ c ∈ name, isNameChar c = true

variable {name a b : List Char}

lemma apart_newline (a b : List Char) : Apart a ('\n' :: b) := by
  rintro ⟨-, h⟩
  have hnewline : isNameChar '\n' = false := by decide
  rw [List.head?_cons, Option.any_some, hnewline] at h
  cases h

lemma not_isIdentifierChar_of_not_isNameChar {o : Option Char} (h : o.any isNameChar = false) :
    o.any isIdentifierChar = false :=
  any_eq_false_of_imp h fun _ => isNameChar_of_isIdentifierChar

lemma IsName.any_getLast? (h : IsName name) : name.getLast?.any isNameChar = true := by
  rw [List.getLast?_eq_some_getLast h.ne_nil, Option.any_some]
  exact h.chars _ (List.getLast_mem h.ne_nil)

lemma IsName.any_head? (h : IsName name) : name.head?.any isNameChar = true := by
  rw [List.head?_eq_some_head h.ne_nil, Option.any_some]
  exact h.chars _ (List.head_mem h.ne_nil)

lemma IsName.occursWhole_left (h : IsName name) (hapart : Apart a b) (ha : OccursWhole name a) :
    OccursWhole name (a ++ b) := by
  obtain ⟨before, after, rfl, hbefore, hafter⟩ := ha
  refine ⟨before, after ++ b, by simp, hbefore, ?_⟩
  cases after with
  | cons c after => exact hafter
  | nil =>
    rw [List.append_nil] at hapart
    apply not_isIdentifierChar_of_not_isNameChar
    rw [Bool.eq_false_iff]
    intro hhead
    refine hapart ⟨?_, hhead⟩
    rw [List.getLast?_append_of_ne_nil before h.ne_nil]
    exact h.any_getLast?

lemma IsName.occursWhole_right (h : IsName name) (hapart : Apart a b) (hb : OccursWhole name b) :
    OccursWhole name (a ++ b) := by
  obtain ⟨before, after, rfl, hbefore, hafter⟩ := hb
  refine ⟨a ++ before, after, by simp, ?_, hafter⟩
  by_cases hempty : before = []
  · subst hempty
    rw [List.append_nil]
    apply not_isIdentifierChar_of_not_isNameChar
    rw [Bool.eq_false_iff]
    intro hlast
    refine hapart ⟨hlast, ?_⟩
    rw [List.nil_append, List.head?_append_of_ne_nil name h.ne_nil]
    exact h.any_head?
  · rwa [List.getLast?_append_of_ne_nil a hempty]

/-- Where no name runs on, a text can be cut without an occurrence of a name being lost or made. -/
theorem IsName.occursWhole_append_iff (h : IsName name) (hapart : Apart a b) :
    OccursWhole name (a ++ b) ↔ OccursWhole name a ∨ OccursWhole name b := by
  refine ⟨?_, fun hor => hor.elim (h.occursWhole_left hapart) (h.occursWhole_right hapart)⟩
  rintro ⟨before, after, heq, hbefore, hafter⟩
  rw [← List.append_assoc] at heq
  rcases List.append_eq_append_iff.mp heq with ⟨middle, hleft, hright⟩ | ⟨middle, rfl, rfl⟩
  · -- The occurrence ends behind the cut.
    subst hright
    rcases List.append_eq_append_iff.mp hleft with ⟨front, rfl, hname⟩ | ⟨front, rfl, rfl⟩
    · by_cases hfront : front = []
      · subst hfront
        rw [List.nil_append] at hname
        exact .inr ⟨[], after, by rw [hname]; rfl, rfl, hafter⟩
      · by_cases hmiddle : middle = []
        · subst hmiddle
          rw [List.append_nil] at hname
          exact .inl ⟨before, [], by rw [hname, List.append_nil], hbefore, rfl⟩
        · -- The name would run on from one side of the cut to the other.
          have hchars := hname ▸ h.chars
          refine absurd ⟨?_, ?_⟩ hapart
          · rw [List.getLast?_append_of_ne_nil before hfront,
              List.getLast?_eq_some_getLast hfront, Option.any_some]
            exact hchars _ (List.mem_append_left middle (List.getLast_mem hfront))
          · rw [List.head?_append_of_ne_nil middle hmiddle, List.head?_eq_some_head hmiddle,
              Option.any_some]
            exact hchars _ (List.mem_append_right front (List.head_mem hmiddle))
    · refine .inr ⟨front, after, by simp, ?_, hafter⟩
      by_cases hempty : front = []
      · rw [hempty]
        rfl
      · rwa [List.getLast?_append_of_ne_nil a hempty] at hbefore
  · -- The occurrence ends before the cut.
    refine .inl ⟨before, middle, by simp, hbefore, ?_⟩
    cases middle with
    | nil => rfl
    | cons c middle => exact hafter

/-- A line break parts two texts. -/
theorem IsName.occursWhole_newline_iff (h : IsName name) (a b : List Char) :
    OccursWhole name (a ++ '\n' :: b) ↔ OccursWhole name a ∨ OccursWhole name b := by
  have hnewline : isNameChar '\n' = false := by decide
  have hbehind : Apart ['\n'] b := by
    rintro ⟨hlast, -⟩
    rw [List.getLast?_singleton, Option.any_some, hnewline] at hlast
    cases hlast
  have hnone : ¬OccursWhole name ['\n'] := by
    rintro ⟨before, after, heq, -⟩
    have hmem : name.head h.ne_nil ∈ ['\n'] := by
      rw [heq]
      exact List.mem_append_right before (List.mem_append_left after (List.head_mem h.ne_nil))
    have hchar := h.chars _ (List.head_mem h.ne_nil)
    rw [List.mem_singleton.mp hmem, hnewline] at hchar
    cases hchar
  rw [h.occursWhole_append_iff (apart_newline a b), ← List.singleton_append,
    h.occursWhole_append_iff hbehind, or_iff_right hnone]

end Source

end GapAudit
