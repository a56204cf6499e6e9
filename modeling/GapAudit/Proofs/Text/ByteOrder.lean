import Mathlib

/-!
# The order of texts and the order of their bytes

Texts are compared character by character. The main statement is that their encodings in bytes are
then ordered in the same way, byte by byte (`bytes_lt_of_lt`).
-/

namespace GapAudit.Text

open String

def bytes (s : String) : List UInt8 :=
  s.toByteArray.data.toList

lemma bytes_eq (s : String) : bytes s = s.toList.flatMap utf8EncodeChar := by
  unfold bytes
  rw [← utf8Encode_toList, List.utf8Encode, List.toList_data_toByteArray]

lemma ofNat_cons_lt_cons {m n : Nat} {s t : List UInt8} (hm : m < 256) (hn : n < 256)
    (hle : m ≤ n) (hrest : m = n → s < t) : UInt8.ofNat m :: s < UInt8.ofNat n :: t := by
  rw [List.cons_lt_cons_iff]
  rcases hle.lt_or_eq with hlt | heq
  · left
    rw [UInt8.lt_iff_toNat_lt, UInt8.toNat_ofNat', UInt8.toNat_ofNat']
    omega
  · exact .inr ⟨congrArg _ heq, hrest heq⟩

/-- Of two characters the smaller one has the smaller bytes, whatever follows them. -/
theorem utf8EncodeChar_append_lt {c d : Char} (h : c < d) (s t : List UInt8) :
    utf8EncodeChar c ++ s < utf8EncodeChar d ++ t := by
  have hval : c.val.toNat < d.val.toNat := h
  have hmax : d.val.toNat < 0x110000 := by
    have hvalid := d.valid
    simp only [UInt32.isValidChar, Nat.isValidChar] at hvalid
    omega
  -- The bytes are compared from the left; were all of them equal, so would the characters be.
  unfold utf8EncodeChar
  dsimp only
  generalize c.val.toNat = m at hval
  generalize d.val.toNat = n at hval hmax
  split_ifs <;> simp only [List.cons_append, List.nil_append] <;>
    repeat' refine ofNat_cons_lt_cons (by omega) (by omega) (by omega) fun _ => ?_
  all_goals omega

lemma flatMap_utf8EncodeChar_lt {s t : List Char} (h : s < t) :
    s.flatMap utf8EncodeChar < t.flatMap utf8EncodeChar := by
  induction s generalizing t with
  | nil =>
    cases t with
    | nil => exact absurd h (List.lt_irrefl _)
    | cons d rest =>
      have hnonempty : utf8EncodeChar d ≠ [] := by
        have hsize := d.utf8Size_pos
        rw [← length_utf8EncodeChar] at hsize
        exact List.ne_nil_of_length_pos hsize
      obtain ⟨b, more, hbytes⟩ := List.exists_cons_of_ne_nil hnonempty
      rw [List.flatMap_nil, List.flatMap_cons, hbytes]
      exact List.nil_lt_cons _ _
  | cons c rest ih =>
    cases t with
    | nil => exact absurd h (List.not_lt_nil _)
    | cons d more =>
      rw [List.flatMap_cons, List.flatMap_cons]
      rcases List.cons_lt_cons_iff.mp h with hlt | ⟨rfl, hrest⟩
      · exact utf8EncodeChar_append_lt hlt _ _
      · exact List.append_left_lt (ih hrest)

/-- The order of texts is the order of their bytes. -/
theorem bytes_lt_of_lt {s t : String} (h : s < t) : bytes s < bytes t := by
  rw [bytes_eq, bytes_eq]
  exact flatMap_utf8EncodeChar_lt h

end GapAudit.Text
