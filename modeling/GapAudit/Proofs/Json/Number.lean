import Mathlib
import GapAudit.Json.Reader
import GapAudit.Proofs.Decimal.DataText

/-!
# Reading numbers where they stand

A number is read in the same way whatever follows it, as long as that does not begin with a
character of numbers (`number?_append`). Only digits with perhaps a sign are read as a whole number
(`number?_whole`).
-/

namespace GapAudit.Json.Reader

open Decimal (isNumeralChar)
open Text (isAsciiDigit spanWhile)

/-- The text does not go on with a character of numbers. -/
def Delimited (s : List Char) : Prop :=
  ∀ c ∈ s.head?, isNumeralChar c = false

lemma digits_append {s t : List Char} (ht : Delimited t) :
    digits (s ++ t) = ((digits s).1, (digits s).2 ++ t) := by
  have htake : t.takeWhile isAsciiDigit = [] ∧ t.dropWhile isAsciiDigit = t := by
    cases t with
    | nil => exact ⟨rfl, rfl⟩
    | cons c t =>
      have hdigit : ¬isAsciiDigit c = true := by
        intro hc
        have hfalse := ht c rfl
        rw [Decimal.isNumeralChar_of_isAsciiDigit hc] at hfalse
        exact Bool.noConfusion hfalse
      exact ⟨List.takeWhile_cons_of_neg hdigit, List.dropWhile_cons_of_neg hdigit⟩
  induction s with
  | nil => simp [digits, spanWhile, htake]
  | cons c s ih =>
    simp only [digits, spanWhile, List.cons_append] at ih ⊢
    by_cases hc : isAsciiDigit c = true
    · simp only [List.takeWhile_cons_of_pos hc, List.dropWhile_cons_of_pos hc, List.map_cons]
      rw [Prod.mk.injEq] at ih
      rw [ih.1, ih.2]
    · simp only [List.takeWhile_cons_of_neg hc, List.dropWhile_cons_of_neg hc, List.map_nil,
        List.cons_append]

lemma digits_taken (s : List Char) :
    ∃ taken, s = taken ++ (digits s).2 ∧ ∀ c ∈ taken, isAsciiDigit c = true := by
  refine ⟨s.takeWhile isAsciiDigit, (List.takeWhile_append_dropWhile).symm, ?_⟩
  intro c hc
  exact List.mem_takeWhile_imp hc

lemma digits_suffix (s : List Char) : (digits s).2 <:+ s :=
  List.dropWhile_suffix _

lemma fraction?_of_head_ne {s : List Char} (h : ∀ c ∈ s.head?, c ≠ '.') :
    fraction? s = some (none, s) := by
  unfold fraction?
  split
  next rest => exact absurd rfl (h '.' rfl)
  · rfl

lemma fraction?_append {s t rest : List Char} {places : Option (List Nat)} (ht : Delimited t)
    (h : fraction? s = some (places, rest)) : fraction? (s ++ t) = some (places, rest ++ t) := by
  by_cases hpoint : ∃ s', s = '.' :: s'
  · obtain ⟨s', rfl⟩ := hpoint
    simp only [fraction?, List.cons_append] at h ⊢
    rw [digits_append ht]
    cases hds : digits s' with
    | mk ds rest' =>
      rw [hds] at h
      cases ds with
      | nil => simp at h
      | cons d ds =>
        obtain ⟨rfl, rfl⟩ : some (d :: ds) = places ∧ rest' = rest := by simpa using h
        rfl
  · have hhead : ∀ c ∈ s.head?, c ≠ '.' := by
      rintro c hc rfl
      exact hpoint ⟨s.tail, List.eq_cons_of_mem_head? hc⟩
    have happend : ∀ c ∈ (s ++ t).head?, c ≠ '.' := by
      cases s with
      | nil =>
        rintro c hc rfl
        exact Bool.noConfusion (ht '.' hc)
      | cons c s => exact hhead
    rw [fraction?_of_head_ne hhead] at h
    obtain ⟨rfl, rfl⟩ : none = places ∧ s = rest := by simpa using h
    exact fraction?_of_head_ne happend

lemma fraction?_suffix {s rest : List Char} {places : Option (List Nat)}
    (h : fraction? s = some (places, rest)) : rest <:+ s := by
  unfold fraction? at h
  split at h
  next s' =>
    have hsuffix : (digits s').2 <:+ '.' :: s' := (digits_suffix s').trans (List.suffix_cons '.' s')
    split at h
    · simp at h
    next hds =>
      rw [hds] at hsuffix
      obtain ⟨-, rfl⟩ := Prod.mk.inj (Option.some.inj h)
      exact hsuffix
  · obtain ⟨-, rfl⟩ := Prod.mk.inj (Option.some.inj h)
    exact List.suffix_refl _

lemma rest_eq_of_fraction?_none {s rest : List Char} (h : fraction? s = some (none, rest)) :
    rest = s := by
  unfold fraction? at h
  split at h
  · split at h <;> simp at h
  · obtain ⟨-, rfl⟩ := Prod.mk.inj (Option.some.inj h)
    rfl

/-- The sign of an exponent and what follows it. -/
def exponentSign : List Char → Bool × List Char
  | '-' :: s => (true, s)
  | '+' :: s => (false, s)
  | s => (false, s)

lemma exponent?_mark {c : Char} {s : List Char} (hmark : c = 'e' ∨ c = 'E') :
    exponent? (c :: s) =
      match digits (exponentSign s).2 with
      | ([], _) => none
      | (ds, rest) =>
        let size : Nat := ds.foldl (fun n d => min (n * 10 + d) 10000000000) 0
        some (some (if (exponentSign s).1 then -(size : Int) else size), rest) := by
  have hc : (c == 'e' || c == 'E') = true := by
    rcases hmark with rfl | rfl <;> rfl
  unfold exponent?
  simp only [hc, if_true]
  rfl

lemma exponent?_of_head_ne {s : List Char} (h : ∀ c ∈ s.head?, c ≠ 'e' ∧ c ≠ 'E') :
    exponent? s = some (none, s) := by
  cases s with
  | nil => rfl
  | cons c s =>
    obtain ⟨hlower, hupper⟩ := h c rfl
    simp [exponent?, hlower, hupper]

lemma eq_mark_cons_or_head_ne (s : List Char) :
    (∃ c s', s = c :: s' ∧ (c = 'e' ∨ c = 'E')) ∨ ∀ c ∈ s.head?, c ≠ 'e' ∧ c ≠ 'E' := by
  rw [or_iff_not_imp_left]
  intro hunmarked c hc
  rw [← not_or]
  intro hmark
  exact hunmarked ⟨c, s.tail, List.eq_cons_of_mem_head? hc, hmark⟩

lemma exponentSign_append {s t : List Char} (hs : s ≠ []) :
    exponentSign (s ++ t) = ((exponentSign s).1, (exponentSign s).2 ++ t) := by
  cases s with
  | nil => exact absurd rfl hs
  | cons c s =>
    by_cases hminus : c = '-'
    · subst hminus
      rfl
    · by_cases hplus : c = '+'
      · subst hplus
        rfl
      · simp [exponentSign, hminus, hplus]

lemma exponentSign_suffix (s : List Char) : (exponentSign s).2 <:+ s := by
  unfold exponentSign
  split
  · exact List.suffix_cons _ _
  · exact List.suffix_cons _ _
  · exact List.suffix_refl _

lemma exponent?_append {s t rest : List Char} {exponent : Option Int} (ht : Delimited t)
    (h : exponent? s = some (exponent, rest)) :
    exponent? (s ++ t) = some (exponent, rest ++ t) := by
  rcases eq_mark_cons_or_head_ne s with ⟨c, s', rfl, hc⟩ | hhead
  · rw [exponent?_mark hc] at h
    have hne : s' ≠ [] := by
      rintro rfl
      simp [exponentSign, digits, spanWhile] at h
    rw [List.cons_append, exponent?_mark hc, exponentSign_append hne, digits_append ht]
    cases hds : digits (exponentSign s').2 with
    | mk ds rest' =>
      rw [hds] at h
      cases ds with
      | nil => simp at h
      | cons d ds =>
        obtain ⟨hexponent, rfl⟩ := Prod.mk.inj (Option.some.inj h)
        rw [← hexponent]
  · have happend : ∀ c ∈ (s ++ t).head?, c ≠ 'e' ∧ c ≠ 'E' := by
      cases s with
      | nil =>
        intro c hc
        constructor
        · rintro rfl
          exact Bool.noConfusion (ht 'e' hc)
        · rintro rfl
          exact Bool.noConfusion (ht 'E' hc)
      | cons c s => exact hhead
    rw [exponent?_of_head_ne hhead] at h
    obtain ⟨rfl, rfl⟩ : none = exponent ∧ s = rest := by simpa using h
    exact exponent?_of_head_ne happend

lemma exponent?_suffix {s rest : List Char} {exponent : Option Int}
    (h : exponent? s = some (exponent, rest)) : rest <:+ s := by
  rcases eq_mark_cons_or_head_ne s with ⟨c, s', rfl, hc⟩ | hhead
  · have hsuffix : (digits (exponentSign s').2).2 <:+ c :: s' :=
      ((digits_suffix _).trans (exponentSign_suffix s')).trans (List.suffix_cons c s')
    rw [exponent?_mark hc] at h
    split at h
    · simp at h
    next hds =>
      rw [hds] at hsuffix
      obtain ⟨-, rfl⟩ := Prod.mk.inj (Option.some.inj h)
      exact hsuffix
  · rw [exponent?_of_head_ne hhead] at h
    obtain ⟨-, rfl⟩ := Prod.mk.inj (Option.some.inj h)
    exact List.suffix_refl _

lemma rest_eq_of_exponent?_none {s rest : List Char} (h : exponent? s = some (none, rest)) :
    rest = s := by
  rcases eq_mark_cons_or_head_ne s with ⟨c, s', rfl, hc⟩ | hhead
  · rw [exponent?_mark hc] at h
    split at h <;> simp at h
  · rw [exponent?_of_head_ne hhead] at h
    obtain ⟨-, rfl⟩ := Prod.mk.inj (Option.some.inj h)
    rfl

/-- Digits that may stand before the point: there is one at least, and no zero leads others. -/
def properWhole : List Nat → Bool
  | [] => false
  | 0 :: _ :: _ => false
  | _ => true

/-- The number of the given digits, places and exponent. -/
def assemble (negative : Bool) (ds : List Nat) (places : Option (List Nat))
    (exponent : Option Int) : Number :=
  let wholePart := ds.foldl Significand.wholeDigit ⟨0, 0, false⟩
  match places, exponent with
  | none, none =>
    if wholePart.full then .real (realOf negative wholePart 0)
    else if !negative then .whole wholePart.value
    else if wholePart.value == 0 || signedLimit < wholePart.value then
      .real (realOf true wholePart 0)
    else .whole (-wholePart.value)
  | places, exponent =>
    let start := { wholePart with full := false }
    let all := (places.getD []).foldl Significand.placeDigit start
    .real (realOf negative all (exponent.getD 0))

lemma properWhole_eq_false {d : Nat} {ds : List Nat} (h : ¬properWhole (d :: ds) = true) :
    d = 0 ∧ ds ≠ [] := by
  cases d with
  | zero =>
    cases ds with
    | nil => exact absurd rfl h
    | cons d' ds => exact ⟨rfl, List.cons_ne_nil d' ds⟩
  | succ d => exact absurd rfl h

lemma unsigned?_eq (negative : Bool) (s : List Char) :
    unsigned? negative s =
      if properWhole (digits s).1 then do
        let (places, rest) ← fraction? (digits s).2
        let (exponent, rest) ← exponent? rest
        some (assemble negative (digits s).1 places exponent, rest)
      else none := by
  unfold unsigned?
  obtain ⟨ds, rest, hds⟩ : ∃ ds rest, digits s = (ds, rest) := ⟨_, _, rfl⟩
  simp only [hds]
  by_cases hproper : properWhole ds = true
  · rw [if_pos hproper]
    split
    · exact Bool.noConfusion hproper
    · exact Bool.noConfusion hproper
    · cases fraction? rest with
      | none => rfl
      | some found =>
        obtain ⟨places, rest⟩ := found
        simp only [Option.bind_eq_bind, Option.bind_some]
        cases exponent? rest with
        | none => rfl
        | some found =>
          obtain ⟨exponent, rest⟩ := found
          simp only [Option.bind_some]
          unfold assemble
          cases places <;> cases exponent <;> simp only [apply_ite some, apply_ite (Prod.mk · rest)]
  · rw [if_neg hproper]
    cases ds with
    | nil => rfl
    | cons d ds =>
      obtain ⟨rfl, hmore⟩ := properWhole_eq_false hproper
      obtain ⟨d', ds, rfl⟩ := List.exists_cons_of_ne_nil hmore
      rfl

lemma unsigned?_eq_some {negative : Bool} {s rest : List Char} {n : Number}
    (h : unsigned? negative s = some (n, rest)) :
    ∃ places exponent rest', properWhole (digits s).1 = true ∧
      fraction? (digits s).2 = some (places, rest') ∧ exponent? rest' = some (exponent, rest) ∧
      n = assemble negative (digits s).1 places exponent := by
  rw [unsigned?_eq] at h
  split at h
  next hproper =>
    obtain ⟨⟨places, rest'⟩, hplaces, h⟩ := Option.bind_eq_some_iff.mp h
    obtain ⟨⟨exponent, rest''⟩, hexponent, h⟩ := Option.bind_eq_some_iff.mp h
    obtain ⟨hn, rfl⟩ := Prod.mk.inj (Option.some.inj h)
    exact ⟨places, exponent, rest', hproper, hplaces, hexponent, hn.symm⟩
  · simp at h

lemma unsigned?_append {negative : Bool} {s t rest : List Char} {n : Number} (ht : Delimited t)
    (h : unsigned? negative s = some (n, rest)) :
    unsigned? negative (s ++ t) = some (n, rest ++ t) := by
  obtain ⟨places, exponent, rest', hproper, hplaces, hexponent, rfl⟩ := unsigned?_eq_some h
  rw [unsigned?_eq, digits_append ht, if_pos hproper, fraction?_append ht hplaces]
  simp only [Option.bind_eq_bind, Option.bind_some]
  rw [exponent?_append ht hexponent]
  rfl

lemma number?_cons_of_ne {c : Char} (s : List Char) (h : c ≠ '-') :
    number? (c :: s) = unsigned? false (c :: s) := by
  simp [number?, h]

/-- A number is read in the same way before any text that does not continue it. -/
theorem number?_append {s t rest : List Char} {n : Number} (ht : Delimited t)
    (h : number? s = some (n, rest)) : number? (s ++ t) = some (n, rest ++ t) := by
  cases s with
  | nil => simp [number?, unsigned?, digits, spanWhile] at h
  | cons c s =>
    by_cases hminus : c = '-'
    · subst hminus
      exact unsigned?_append (s := s) ht h
    · rw [number?_cons_of_ne _ hminus] at h
      rw [List.cons_append, number?_cons_of_ne _ hminus]
      exact unsigned?_append (s := c :: s) ht h

lemma assemble_eq_whole {negative : Bool} {ds : List Nat} {places : Option (List Nat)}
    {exponent : Option Int} {n : Int} (h : assemble negative ds places exponent = .whole n) :
    places = none ∧ exponent = none := by
  cases places with
  | none =>
    cases exponent with
    | none => exact ⟨rfl, rfl⟩
    | some exponent => simp [assemble] at h
  | some places => simp [assemble] at h

lemma unsigned?_suffix {negative : Bool} {s rest : List Char} {n : Number}
    (h : unsigned? negative s = some (n, rest)) : rest <:+ s := by
  obtain ⟨places, exponent, rest', -, hplaces, hexponent, rfl⟩ := unsigned?_eq_some h
  have hrest := (exponent?_suffix hexponent).trans (fraction?_suffix hplaces)
  exact hrest.trans (digits_suffix s)

lemma unsigned?_whole {negative : Bool} {s rest : List Char} {n : Int}
    (h : unsigned? negative s = some (.whole n, rest)) :
    ∃ taken, s = taken ++ rest ∧ ∀ c ∈ taken, isAsciiDigit c = true := by
  obtain ⟨places, exponent, rest', -, hplaces, hexponent, hn⟩ := unsigned?_eq_some h
  obtain ⟨rfl, rfl⟩ := assemble_eq_whole hn.symm
  rw [rest_eq_of_fraction?_none hplaces] at hexponent
  rw [rest_eq_of_exponent?_none hexponent]
  exact digits_taken s

lemma number?_suffix {s rest : List Char} {n : Number} (h : number? s = some (n, rest)) :
    rest <:+ s := by
  unfold number? at h
  split at h
  · exact (unsigned?_suffix h).trans (List.suffix_cons _ _)
  · exact unsigned?_suffix h

/-- What is read as a whole number has neither a point nor an exponent. -/
theorem number?_whole {s rest : List Char} {n : Int} (h : number? s = some (.whole n, rest)) :
    ∃ taken, s = taken ++ rest ∧ ∀ c ∈ taken, c = '-' ∨ isAsciiDigit c = true := by
  unfold number? at h
  split at h
  · obtain ⟨taken, rfl, htaken⟩ := unsigned?_whole h
    refine ⟨'-' :: taken, rfl, ?_⟩
    intro c hc
    exact (List.mem_cons.mp hc).imp id (htaken c)
  · obtain ⟨taken, hs, htaken⟩ := unsigned?_whole h
    exact ⟨taken, hs, fun c hc => Or.inr (htaken c hc)⟩

end GapAudit.Json.Reader
