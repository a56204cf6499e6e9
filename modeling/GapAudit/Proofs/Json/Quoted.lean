import Mathlib
import GapAudit.Json.Printer
import GapAudit.Json.Reader

/-!
# Texts between quotes

Every text, whatever characters it holds, is read from its quoted form (`string?_quoted`): each
character is read from what was written for it, and what was written ends at the closing quote.
-/

namespace GapAudit.Json.Reader

lemma hexValue?_hexDigit (n : Nat) : hexValue? (hexDigit n) = some (n % 16) := by
  have hlt : n % 16 < 16 := Nat.mod_lt n (by decide)
  rw [hexDigit]
  generalize n % 16 = d at hlt
  interval_cases d <;> rfl

lemma hexUnit?_control {n : Nat} (hn : n < 0x20) (rest : List Char) :
    hexUnit? ('0' :: '0' :: hexDigit (n / 16) :: hexDigit n :: rest) = some (n, rest) := by
  have hzero : hexValue? '0' = some 0 := rfl
  have hvalue : 0 * 4096 + 0 * 256 + n / 16 % 16 * 16 + n % 16 = n := by omega
  simp only [hexUnit?, hzero, hexValue?_hexDigit, Option.bind_eq_bind, Option.bind_some, hvalue]

lemma piece?_control {c : Char} (hc : c.toNat < 0x20) (rest : List Char) :
    piece? ('\\' :: 'u' :: '0' :: '0' :: hexDigit (c.toNat / 16) :: hexDigit c.toNat :: rest) =
      some (.char c, rest) := by
  have hhalf : ¬(0xd800 ≤ c.toNat && c.toNat < 0xe000) = true := by
    simp only [Bool.and_eq_true, decide_eq_true_eq]
    omega
  rw [piece?, hexUnit?_control hc]
  simp only [Option.bind_eq_bind, Option.bind_some]
  rw [if_neg hhalf, Char.ofNat_toNat]

lemma piece?_plain {c : Char} (hquote : c ≠ '"') (hbackslash : c ≠ '\\')
    (hcontrol : ¬c.toNat < 0x20) (rest : List Char) :
    piece? (c :: rest) = some (.char c, rest) := by
  rw [piece?, if_neg hcontrol]
  · exact hquote
  · intro s hc
    exact absurd hc hbackslash
  · intro d s hc
    exact absurd hc hbackslash

/-- A character is read from what is written for it inside quotes. -/
lemma piece?_escapeChar (c : Char) (rest : List Char) :
    piece? (escapeChar c ++ rest) = some (.char c, rest) := by
  unfold escapeChar
  split
  next hquote =>
    simp only [Bool.or_eq_true, beq_iff_eq] at hquote
    rcases hquote with rfl | rfl <;> rfl
  next hplain =>
    simp only [Bool.or_eq_true, beq_iff_eq, not_or] at hplain
    obtain ⟨hquote, hbackslash⟩ := hplain
    split
    next hc => rw [beq_iff_eq.mp hc]; rfl
    split
    next hc => rw [beq_iff_eq.mp hc]; rfl
    split
    next hc => rw [beq_iff_eq.mp hc]; rfl
    split
    next hc => rw [beq_iff_eq.mp hc]; rfl
    split
    next hc => rw [beq_iff_eq.mp hc]; rfl
    split
    next hcontrol => exact piece?_control hcontrol rest
    next hcontrol => exact piece?_plain hquote hbackslash hcontrol rest

lemma length_pos_escapeChar (c : Char) : 0 < (escapeChar c).length := by
  rw [List.length_pos_iff]
  intro hnil
  have hread := piece?_escapeChar c []
  rw [hnil] at hread
  simp [piece?] at hread

lemma length_le_flatMap_escapeChar (s : List Char) : s.length ≤ (s.flatMap escapeChar).length := by
  induction s with
  | nil => exact le_refl _
  | cons c s ih =>
    have hc := length_pos_escapeChar c
    rw [List.flatMap_cons, List.length_append, List.length_cons]
    omega

lemma pieces?_flatMap_escapeChar (s rest : List Char) {fuel : Nat} (hfuel : s.length < fuel) :
    pieces? fuel (s.flatMap escapeChar ++ '"' :: rest) = some (s.map Piece.char, rest) := by
  induction s generalizing fuel with
  | nil =>
    cases fuel with
    | zero => exact absurd hfuel (by simp)
    | succ fuel => rfl
  | cons c s ih =>
    cases fuel with
    | zero => exact absurd hfuel (by simp)
    | succ fuel =>
      have hrest : s.length < fuel := by simpa using hfuel
      rw [List.flatMap_cons, List.append_assoc, pieces?, piece?_escapeChar]
      simp only [Option.bind_eq_bind, Option.bind_some, ih hrest, List.map_cons]

lemma charsOf?_map_char (s : List Char) : charsOf? (s.map Piece.char) = some s := by
  induction s with
  | nil => rfl
  | cons c s ih => rw [List.map_cons, charsOf?, ih, Option.map_some]

/-- Every text is read from its quoted form. -/
theorem string?_quoted (s : String) (rest : List Char) :
    ∃ after, quoted s ++ rest = '"' :: after ∧ string? after = some (some s, rest) := by
  refine ⟨s.toList.flatMap escapeChar ++ '"' :: rest, by simp [quoted], ?_⟩
  have hlength := length_le_flatMap_escapeChar s.toList
  have hfuel : s.toList.length < (s.toList.flatMap escapeChar ++ '"' :: rest).length + 1 := by
    rw [List.length_append]
    omega
  rw [string?, pieces?_flatMap_escapeChar _ _ hfuel]
  simp only [Option.map_some, charsOf?_map_char, String.ofList_toList]

end GapAudit.Json.Reader
