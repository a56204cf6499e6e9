import GapAudit.Modules
import GapAudit.Proofs.Text.Scan
import GapAudit.Proofs.Text.Word

/-!
# Texts without comments, piece by piece

Comments are removed without parsing, so a text in quotes may start one too. If no comment runs from
one part of a text into the next, each part loses its own comments (`stripComments_append`).
-/

namespace GapAudit.Modules

open Text

variable {u v : List Char}

lemma getLast?_of_tail {c d : Char} {s : List Char} (h : s.getLast? = some d) :
    (c :: s).getLast? = some d := by
  rw [List.getLast?_cons, h, Option.getD_some]

/-- Every block comment that starts in the first text, and that the two texts close, is closed in
the first. -/
def ClosesBlocks (u v : List Char) : Prop :=
  ∀ a b, u = a ++ '/' :: '*' :: b → ['*', '/'] <:+: b ++ v → ['*', '/'] <:+: b

lemma ClosesBlocks.tail {c : Char} (h : ClosesBlocks (c :: u) v) : ClosesBlocks u v :=
  fun a b heq => h (c :: a) b (by rw [heq, List.cons_append])

lemma ne_nil_of_occurs {s : List Char} (h : ['*', '/'] <:+: s) : s ≠ [] := by
  rintro rfl
  exact absurd (List.infix_nil.mp h) (List.cons_ne_nil _ _)

lemma occurs_of_occurs_cons {c : Char} {s : List Char} (h : ['*', '/'] <:+: c :: s)
    (hne : ∀ rest, c = '*' → s = '/' :: rest → False) : ['*', '/'] <:+: s := by
  rcases List.infix_cons_iff.mp h with ⟨rest, heq⟩ | hlater
  · cases heq
    exact absurd rfl (hne rest rfl)
  · exact hlater

lemma mem_splits_iff {a b s : List Char} : (a, b) ∈ splits s ↔ s = a ++ b := by
  induction s generalizing a with
  | nil => simp [splits, and_comm, eq_comm]
  | cons c s ih =>
    cases a with
    | nil => simp [splits, eq_comm]
    | cons d a => simp [splits, ih, and_comm, eq_comm]

/-- Whether something holds of every place in a text where a word stands can be decided. -/
lemma forall_mem_splits_iff {p : List Char → List Char → Prop} {word s : List Char} :
    (∀ split ∈ splits s, ∀ b ∈ after? word split.2, p split.1 b) ↔
      ∀ a b, s = a ++ (word ++ b) → p a b := by
  constructor
  · intro h a b heq
    exact h (a, word ++ b) (mem_splits_iff.mpr heq) b (after?_append word b)
  · rintro h ⟨a, t⟩ hmem b hb
    have ht : t = word ++ b := after?_eq_some hb
    exact h a b (ht ▸ mem_splits_iff.mp hmem)

instance (u v : List Char) : Decidable (ClosesBlocks u v) :=
  decidable_of_iff
    (∀ split ∈ splits u, ∀ b ∈ after? ['/', '*'] split.2,
      ['*', '/'] <:+: b ++ v → ['*', '/'] <:+: b)
    (forall_mem_splits_iff (p := fun _ b => ['*', '/'] <:+: b ++ v → ['*', '/'] <:+: b))

/-- Block comments are removed part by part. -/
lemma dropBlockComments_append (hclosed : ClosesBlocks u v)
    (hborder : u.getLast? = some '/' → v.head? ≠ some '*') (inside : Bool)
    (hinside : inside = true → ['*', '/'] <:+: u) :
    dropBlockComments inside (u ++ v) = dropBlockComments inside u ++ dropBlockComments false v := by
  fun_induction dropBlockComments inside u with
  | case1 inside =>
    cases inside with
    | false => rfl
    | true => exact absurd rfl (ne_nil_of_occurs (hinside rfl))
  | case2 s ih =>
    rw [List.cons_append, List.cons_append, dropBlockComments]
    exact ih hclosed.tail.tail (fun h => hborder (getLast?_of_tail (getLast?_of_tail h))) nofun
  | case3 c s hne ih =>
    have hmore : ['*', '/'] <:+: s := occurs_of_occurs_cons (hinside rfl) hne
    rw [List.cons_append, dropBlockComments]
    · exact ih hclosed.tail (fun h => hborder (getLast?_of_tail h)) fun _ => hmore
    · rintro rest rfl heq
      cases s with
      | nil => exact ne_nil_of_occurs hmore rfl
      | cons d s =>
        cases heq
        exact hne s rfl rfl
  | case4 s hoccurs ih =>
    have hwhole : occursIn ['*', '/'] (s ++ v) = true := by
      rw [occursIn_iff] at hoccurs ⊢
      exact hoccurs.trans (List.prefix_append s v).isInfix
    rw [List.cons_append, List.cons_append, dropBlockComments, if_pos hwhole]
    exact ih hclosed.tail.tail (fun h => hborder (getLast?_of_tail (getLast?_of_tail h))) fun _ =>
      occursIn_iff.mp hoccurs
  | case5 s hoccurs ih =>
    have hwhole : ¬occursIn ['*', '/'] (s ++ v) = true := by
      rw [occursIn_iff] at hoccurs ⊢
      exact fun h => hoccurs (hclosed [] s rfl h)
    rw [List.cons_append, List.cons_append, dropBlockComments, if_neg hwhole, List.cons_append,
      ← List.cons_append, ih hclosed.tail (fun h => hborder (getLast?_of_tail h)) nofun]
  | case6 c s hne ih =>
    rw [List.cons_append, dropBlockComments]
    · rw [ih hclosed.tail (fun h => hborder (getLast?_of_tail h)) nofun, List.cons_append]
    · rintro rest rfl heq
      cases s with
      | nil =>
        rw [List.nil_append] at heq
        exact hborder rfl (by rw [heq, List.head?_cons])
      | cons d s =>
        cases heq
        exact hne s rfl rfl

/-- Unless a text ends in a slash, its last character stays when block comments are removed. -/
lemma getLast?_dropBlockComments (hlast : u.getLast? ≠ some '/') (inside : Bool)
    (hinside : inside = true → ['*', '/'] <:+: u) :
    (dropBlockComments inside u).getLast? = u.getLast? := by
  fun_induction dropBlockComments inside u with
  | case1 inside => rfl
  | case2 s ih =>
    have hs : s ≠ [] := by
      rintro rfl
      exact hlast rfl
    rw [ih (fun h => hlast (getLast?_of_tail (getLast?_of_tail h))) nofun,
      List.getLast?_cons_cons, List.getLast?_cons_of_ne_nil hs]
  | case3 c s hne ih =>
    have hmore : ['*', '/'] <:+: s := occurs_of_occurs_cons (hinside rfl) hne
    rw [ih (fun h => hlast (getLast?_of_tail h)) fun _ => hmore,
      List.getLast?_cons_of_ne_nil (ne_nil_of_occurs hmore)]
  | case4 s hoccurs ih =>
    have hmore := occursIn_iff.mp hoccurs
    rw [ih (fun h => hlast (getLast?_of_tail (getLast?_of_tail h))) fun _ => hmore,
      List.getLast?_cons_cons, List.getLast?_cons_of_ne_nil (ne_nil_of_occurs hmore)]
  | case5 s hoccurs ih =>
    rw [List.getLast?_cons, ih (fun h => hlast (getLast?_of_tail h)) nofun, ← List.getLast?_cons]
  | case6 c s hne ih =>
    rw [List.getLast?_cons, ih (fun h => hlast (getLast?_of_tail h)) nofun, ← List.getLast?_cons]

/-- Every line comment that starts in a text ends in it. -/
def ClosesLines (before : Option Char) (u : List Char) : Prop :=
  ∀ a b, u = a ++ '/' :: '/' :: b → (a.getLast?.or before).any shieldsSlashes = true ∨ '\n' ∈ b

lemma ClosesLines.tail {before : Option Char} {c : Char} (h : ClosesLines before (c :: u)) :
    ClosesLines (some c) u := fun a b heq => by
  have hshifted := h (c :: a) b (by rw [heq, List.cons_append])
  rwa [getLast?_cons_or] at hshifted

instance (before : Option Char) (u : List Char) : Decidable (ClosesLines before u) :=
  decidable_of_iff
    (∀ split ∈ splits u, ∀ b ∈ after? ['/', '/'] split.2,
      (split.1.getLast?.or before).any shieldsSlashes = true ∨ '\n' ∈ b)
    (forall_mem_splits_iff
      (p := fun a b => (a.getLast?.or before).any shieldsSlashes = true ∨ '\n' ∈ b))

lemma mem_of_mem_cons_of_ne {c : Char} {s : List Char} (h : '\n' ∈ c :: s)
    (hne : ¬(c == '\n') = true) : '\n' ∈ s := by
  rcases List.mem_cons.mp h with rfl | hmem
  · exact absurd rfl hne
  · exact hmem

/-- Whether a line comment starts at a character, given the characters before and behind it. -/
def StartsLineComment (before : Option Char) (c : Char) (behind : Option Char) : Prop :=
  c = '/' ∧ behind = some '/' ∧ before.any shieldsSlashes = false

lemma startsLineComment_iff {before behind : Option Char} {c : Char} :
    (c == '/' && behind == some '/' && !before.any shieldsSlashes) = true ↔
      StartsLineComment before c behind := by
  simp [StartsLineComment, and_assoc]

lemma StartsLineComment.append {before : Option Char} {c : Char} {s : List Char}
    (h : StartsLineComment before c s.head?) (v : List Char) :
    StartsLineComment before c (s ++ v).head? := by
  obtain ⟨hc, hhead, hbefore⟩ := h
  exact ⟨hc, by rw [List.head?_append, hhead, Option.some_or], hbefore⟩

lemma StartsLineComment.of_append {before : Option Char} {c : Char} {s : List Char}
    (h : StartsLineComment before c (s ++ v).head?)
    (hborder : (c :: s).getLast? = some '/' → v.head? ≠ some '/') :
    StartsLineComment before c s.head? := by
  obtain ⟨rfl, hhead, hbefore⟩ := h
  cases s with
  | nil => exact absurd hhead (hborder rfl)
  | cons d s => exact ⟨rfl, hhead, hbefore⟩

/-- A line comment that starts is ended. -/
lemma ClosesLines.newline_mem {before : Option Char} {c : Char} (h : ClosesLines before (c :: u))
    (hstart : StartsLineComment before c u.head?) : '\n' ∈ u := by
  obtain ⟨rfl, hhead, hbefore⟩ := hstart
  obtain ⟨rest, rfl⟩ := List.head?_eq_some_iff.mp hhead
  rcases h [] rest rfl with hshielded | hmem
  · rw [List.getLast?_nil, Option.none_or, hbefore] at hshielded
    cases hshielded
  · exact List.mem_cons_of_mem '/' hmem

/-- Line comments are removed part by part. -/
lemma dropLineComments_append (before : Option Char) (hclosed : ClosesLines before u)
    (hborder : u.getLast? = some '/' → v.head? ≠ some '/') (inside : Bool)
    (hinside : inside = true → '\n' ∈ u) :
    dropLineComments inside before (u ++ v) =
      dropLineComments inside before u ++ dropLineComments false (u.getLast?.or before) v := by
  fun_induction dropLineComments inside before u with
  | case1 inside before =>
    cases inside with
    | false => rfl
    | true => cases hinside rfl
  | case2 before c s hend ih =>
    rw [List.cons_append, dropLineComments, if_pos hend, List.cons_append, getLast?_cons_or,
      ih hclosed.tail (fun h => hborder (getLast?_of_tail h)) nofun]
  | case3 before c s hend ih =>
    have hmore : '\n' ∈ s := mem_of_mem_cons_of_ne (hinside rfl) hend
    rw [List.cons_append, dropLineComments, if_neg hend, getLast?_cons_or,
      ih hclosed.tail (fun h => hborder (getLast?_of_tail h)) fun _ => hmore]
  | case4 before c s hstart ih =>
    rw [startsLineComment_iff] at hstart
    have hmore : '\n' ∈ s := hclosed.newline_mem hstart
    have hwhole := startsLineComment_iff.mpr (hstart.append v)
    rw [List.cons_append, dropLineComments, if_pos hwhole, getLast?_cons_or,
      ih hclosed.tail (fun h => hborder (getLast?_of_tail h)) fun _ => hmore]
  | case5 before c s hstart ih =>
    rw [startsLineComment_iff] at hstart
    have hwhole := fun h => hstart ((startsLineComment_iff.mp h).of_append hborder)
    rw [List.cons_append, dropLineComments, if_neg hwhole, List.cons_append, getLast?_cons_or,
      ih hclosed.tail (fun h => hborder (getLast?_of_tail h)) nofun]

/-- The last character of a text stays when line comments are removed. -/
lemma getLast?_dropLineComments (before : Option Char) (hclosed : ClosesLines before u)
    (inside : Bool) (hinside : inside = true → '\n' ∈ u) :
    (dropLineComments inside before u).getLast? = u.getLast? := by
  fun_induction dropLineComments inside before u with
  | case1 inside before => rfl
  | case2 before c s hend ih | case5 before c s hstart ih =>
    rw [List.getLast?_cons, ih hclosed.tail nofun, ← List.getLast?_cons]
  | case3 before c s hend ih =>
    have hmore : '\n' ∈ s := mem_of_mem_cons_of_ne (hinside rfl) hend
    rw [ih hclosed.tail fun _ => hmore, List.getLast?_cons_of_ne_nil (List.ne_nil_of_mem hmore)]
  | case4 before c s hstart ih =>
    have hmore : '\n' ∈ s := hclosed.newline_mem (startsLineComment_iff.mp hstart)
    rw [ih hclosed.tail fun _ => hmore, List.getLast?_cons_of_ne_nil (List.ne_nil_of_mem hmore)]

/-- What stands before a text matters only if it keeps two slashes from starting a comment. -/
lemma dropLineComments_congr {before before' : Option Char}
    (h : before.any shieldsSlashes = before'.any shieldsSlashes) (s : List Char) :
    dropLineComments false before s = dropLineComments false before' s := by
  cases s with
  | nil => rfl
  | cons c s => rw [dropLineComments, dropLineComments, h]

/-- No comment runs from the first text into the second. -/
structure ClosesComments (u v : List Char) : Prop where
  blocks : ClosesBlocks u v
  lines : ClosesLines none (dropBlockComments false u)

lemma closesComments_iff : ClosesComments u v ↔
    ClosesBlocks u v ∧ ClosesLines none (dropBlockComments false u) :=
  ⟨fun h => ⟨h.blocks, h.lines⟩, fun h => ⟨h.1, h.2⟩⟩

instance (u v : List Char) : Decidable (ClosesComments u v) :=
  decidable_of_iff _ closesComments_iff.symm

lemma ClosesComments.of_no_slash (h : '/' ∉ u) (hdrop : '/' ∉ dropBlockComments false u) :
    ClosesComments u v where
  blocks a b heq := absurd (by simp [heq]) h
  lines a b heq := absurd (by simp [heq]) hdrop

/-- Unless a text ends in a slash, its last character stays when comments are removed. -/
lemma getLast?_stripComments (hclosed : ClosesComments u v) (hlast : u.getLast? ≠ some '/') :
    (stripComments u).getLast? = u.getLast? := by
  rw [stripComments, getLast?_dropLineComments none hclosed.lines false nofun,
    getLast?_dropBlockComments hlast false nofun]

/-- If no comment runs from one text into the next, and the border is not within a sign of comments,
each loses its own comments. -/
lemma stripComments_append (hclosed : ClosesComments u v)
    (hblock : u.getLast? = some '/' → v.head? ≠ some '*')
    (hline : (dropBlockComments false u).getLast? = some '/' →
      (dropBlockComments false v).head? ≠ some '/') :
    stripComments (u ++ v) = stripComments u ++
      dropLineComments false (dropBlockComments false u).getLast? (dropBlockComments false v) := by
  rw [stripComments, dropBlockComments_append hclosed.blocks hblock false nofun,
    dropLineComments_append none hclosed.lines hline false nofun, Option.or_none, stripComments]

/-- The first text does not end in a slash. -/
theorem stripComments_append_of_last (hclosed : ClosesComments u v)
    (hlast : u.getLast? ≠ some '/') :
    stripComments (u ++ v) =
      stripComments u ++ dropLineComments false u.getLast? (dropBlockComments false v) := by
  have hsame := getLast?_dropBlockComments hlast false nofun
  rw [stripComments_append hclosed (fun h => absurd h hlast) (fun h => absurd (hsame ▸ h) hlast),
    hsame]

/-- The second text begins with a character that is not one of the signs of comments. -/
theorem stripComments_append_of_head {c : Char} (hclosed : ClosesComments u (c :: v))
    (hslash : c ≠ '/') (hstar : c ≠ '*') :
    stripComments (u ++ c :: v) = stripComments u ++ stripComments (c :: v) := by
  have hblocks : dropBlockComments false (c :: v) = c :: dropBlockComments false v := by
    rw [dropBlockComments]
    exact fun _ h _ => hslash h
  have hlines (before : Option Char) :
      dropLineComments false before (c :: dropBlockComments false v) =
        c :: dropLineComments false (some c) (dropBlockComments false v) := by
    rw [dropLineComments, if_neg (by simp [hslash])]
  have hbehind : stripComments (c :: v) =
      c :: dropLineComments false (some c) (dropBlockComments false v) := by
    rw [stripComments, hblocks, hlines]
  rw [stripComments_append hclosed (by simp [hstar]) (by simp [hblocks, hslash]), hblocks, hlines,
    hbehind]

end GapAudit.Modules
