import Mathlib.Data.List.Basic
import GapAudit.Text.Bytes

/-!
# Places counted in bytes

A place in a text splits it: as many bytes as the place says are taken off, and the rest is left
(`splitsAt_iff`). A stretch between two such places is cut out of a text in the same way
(`exists_stretch`).
-/

namespace GapAudit.Text

lemma utf8Size_ne_zero (c : Char) : c.utf8Size ≠ 0 :=
  Nat.pos_iff_ne_zero.mp c.utf8Size_pos

lemma byteSize_append (a b : List Char) : byteSize (a ++ b) = byteSize a + byteSize b := by
  induction a with
  | nil => rw [List.nil_append, byteSize, Nat.zero_add]
  | cons c a ih => rw [List.cons_append, byteSize, byteSize, ih, Nat.add_assoc]

lemma byteSize_pos {s : List Char} (h : s ≠ []) : 0 < byteSize s := by
  obtain ⟨c, s, rfl⟩ := List.exists_cons_of_ne_nil h
  exact Nat.add_pos_left c.utf8Size_pos _

lemma takeBytes_append (a b : List Char) : takeBytes (byteSize a) (a ++ b) = a := by
  induction a with
  | nil =>
    cases b with
    | nil => rfl
    | cons c b => simp [byteSize, takeBytes, utf8Size_ne_zero c]
  | cons c a ih =>
    rw [List.cons_append, byteSize, takeBytes, if_pos (Nat.le_add_right _ _), Nat.add_sub_cancel_left,
      ih]

lemma dropBytes_append (a b : List Char) : dropBytes (byteSize a) (a ++ b) = b := by
  induction a with
  | nil => cases b <;> rfl
  | cons c a ih =>
    have hpos : (c.utf8Size + byteSize a == 0) = false := by
      simp [utf8Size_ne_zero c]
    rw [List.cons_append, byteSize, dropBytes, hpos, if_neg Bool.false_ne_true,
      Nat.add_sub_cancel_left, ih]

lemma dropBytes_eq {s a b : List Char} {size : Nat} (h : s = a ++ b) (hsize : size = byteSize a) :
    dropBytes size s = b := by
  rw [h, hsize, dropBytes_append]

lemma splitsAt_append (a b : List Char) : splitsAt (byteSize a) (a ++ b) = true := by
  rw [splitsAt, takeBytes_append, beq_self_eq_true]

lemma takeBytes_prefix (size : Nat) (s : List Char) : takeBytes size s <+: s := by
  induction s generalizing size with
  | nil => exact List.nil_prefix
  | cons c s ih =>
    rw [takeBytes]
    split
    · exact List.cons_prefix_cons.mpr ⟨rfl, ih _⟩
    · exact List.nil_prefix

/-- A text splits at a place just if so many bytes make up a beginning of it. -/
lemma splitsAt_iff {size : Nat} {s : List Char} :
    splitsAt size s = true ↔ ∃ a b, s = a ++ b ∧ byteSize a = size := by
  constructor
  · intro h
    obtain ⟨b, hb⟩ := takeBytes_prefix size s
    exact ⟨takeBytes size s, b, hb.symm, beq_iff_eq.mp h⟩
  · rintro ⟨a, b, rfl, rfl⟩
    exact splitsAt_append a b

/-- Of two beginnings of a text, the one with no more bytes is a beginning of the other. -/
lemma exists_append_of_byteSize_le {a b c d : List Char} (h : a ++ b = c ++ d)
    (hle : byteSize a ≤ byteSize c) : ∃ middle, c = a ++ middle ∧ b = middle ++ d := by
  rcases List.append_eq_append_iff.mp h with ⟨middle, hc, hb⟩ | ⟨middle, ha, hd⟩
  · exact ⟨middle, hc, hb⟩
  · rw [ha, byteSize_append] at hle
    obtain rfl : middle = [] := by
      by_contra hne
      have hpos := byteSize_pos hne
      omega
    rw [List.append_nil] at ha
    exact ⟨[], by rw [ha, List.append_nil], hd.symm⟩

/-- Between two places at which a text splits there is a stretch of it. -/
lemma exists_stretch {start stop : Nat} {s : List Char} (hstart : splitsAt start s = true)
    (hstop : splitsAt stop s = true) (hle : start ≤ stop) :
    ∃ before middle after, s = before ++ (middle ++ after) ∧ byteSize before = start ∧
      byteSize (before ++ middle) = stop := by
  obtain ⟨before, rest, rfl, rfl⟩ := splitsAt_iff.mp hstart
  obtain ⟨front, after, heq, rfl⟩ := splitsAt_iff.mp hstop
  obtain ⟨middle, rfl, rfl⟩ := exists_append_of_byteSize_le heq hle
  exact ⟨before, middle, after, rfl, rfl, rfl⟩

end GapAudit.Text
