import GapAudit.Proofs.Path.Components

/-!
# Paths under a folder

Whether a path is under another one is told by their components (`isUnder_iff`). So are the
components of what a path is relative to an absolute one, however the path is written
(`components_relativeTo_congr`), although a backslash in a name parts it there.
-/

namespace GapAudit.Path

open Text

lemma isSome_partsAfter?_iff (base parts : List Part) :
    (partsAfter? base parts).isSome = true ↔
      base.map (fun part => String.ofList part.text) <+:
        parts.map fun part => String.ofList part.text := by
  induction base generalizing parts with
  | nil => simp [partsAfter?]
  | cons part base ih =>
    cases parts with
    | nil => simp [partsAfter?]
    | cons first rest =>
      rw [partsAfter?, List.map_cons, List.map_cons, List.cons_prefix_cons, ← ih,
        String.ofList_inj]
      by_cases h : part.text = first.text
      · simp [h]
      · simp [h]

/-- A path is under another if it starts with the components of the other, and both are absolute or
both are not. Every path is under the empty one. -/
theorem isUnder_iff (base path : String) :
    isUnder base path = true ↔
      (isAbsolute base = isAbsolute path ∨ base = "") ∧ components base <+: components path := by
  rw [isUnder, after?]
  by_cases hroot : isAbsolute base = isAbsolute path
  · rw [hroot, bne_self_eq_false, if_neg Bool.false_ne_true, Option.isSome_map,
      isSome_partsAfter?_iff]
    simp [components]
  · rw [if_pos (bne_iff_ne.mpr hroot)]
    by_cases hbase : base = ""
    · subst hbase
      have hnone : components "" = [] := rfl
      simp [hnone]
    · have hempty : base.isEmpty = false := by simpa using hbase
      simp [hempty, hroot, hbase]

lemma slashed_append (a b : List Char) : slashed (a ++ b) = slashed a ++ slashed b :=
  List.map_append

/-- Behind a text the pieces of further parts that count are those of their texts, whatever stands
between them. -/
lemma exists_splitAt_textOf (text : List Char) {more : List Part}
    (hmore : ∀ part ∈ more, IsPart part) :
    ∃ pieces, splitAt '/' (slashed (text ++ textOf more)) = splitAt '/' (slashed text) ++ pieces ∧
      pieces.filter counts =
        (more.map (·.text)).flatMap fun text => (splitAt '/' (slashed text)).filter counts := by
  induction more generalizing text with
  | nil => exact ⟨[], by simp [textOf], rfl⟩
  | cons part more ih =>
    have hpart := hmore part List.mem_cons_self
    obtain ⟨pieces, hpieces, hcount⟩ := ih part.text fun part hmem =>
      hmore part (List.mem_cons_of_mem _ hmem)
    obtain ⟨gap, hgap⟩ := hpart.gap.begins
    have htext : slashed (text ++ textOf (part :: more)) =
        slashed text ++ '/' :: (gap ++ slashed (part.text ++ textOf more)) := by
      have hsame : slashed part.gap = part.gap := slashed_eq_self hpart.gap.noBackslash
      have hall : text ++ textOf (part :: more) =
          text ++ (part.gap ++ (part.text ++ textOf more)) := by simp [textOf]
      rw [hall, slashed_append, slashed_append, hsame, hgap, List.cons_append]
    refine ⟨splitAt '/' (gap ++ slashed (part.text ++ textOf more)), ?_, ?_⟩
    · rw [htext, splitAt_append]
    · -- Nothing of the gap itself counts.
      have hseparates :=
        hpart.gap.separates [] (slashed (part.text ++ textOf more)) List.not_mem_nil
      rw [List.nil_append, hgap, List.cons_append, ← List.nil_append ('/' :: _), splitAt_append,
        splitAt_of_not_mem List.not_mem_nil, List.filter_append] at hseparates
      rw [List.append_cancel_left hseparates, hpieces, List.filter_append, hcount, List.map_cons,
        List.flatMap_cons]

/-- The components of a text are told by its beginning, the pieces there, and those of the other
pieces that count. -/
lemma components_ofList_congr {s t : List Char} {front pieces others : List (List Char)}
    (hs : splitAt '/' s = front ++ pieces) (ht : splitAt '/' t = front ++ others)
    (hfront : front ≠ []) (hhead : s.head? = t.head?)
    (h : pieces.filter counts = others.filter counts) :
    components (String.ofList s) = components (String.ofList t) := by
  have htexts : (partsOf (!isAbsolute (String.ofList s)) [] (front ++ pieces)).map (·.text) =
      (partsOf (!isAbsolute (String.ofList s)) [] (front ++ others)).map (·.text) := by
    obtain ⟨first, front, rfl⟩ := List.exists_cons_of_ne_nil hfront
    rw [List.cons_append, List.cons_append, partsOf, partsOf]
    split
    · rw [map_text_partsOf, map_text_partsOf, List.filter_append, List.filter_append, h]
    · rw [List.map_cons, List.map_cons, map_text_partsOf, map_text_partsOf, List.filter_append,
        List.filter_append, h]
  have hroot : isAbsolute (String.ofList s) = isAbsolute (String.ofList t) := by
    rw [isAbsolute, isAbsolute, String.toList_ofList, String.toList_ofList, hhead]
  have hmap := congrArg (List.map String.ofList) htexts
  rw [List.map_map, List.map_map] at hmap
  rw [components, components, parts, parts, ← hroot, String.toList_ofList, String.toList_ofList, hs,
    ht]
  exact hmap

/-- The text of the parts of a path that stand behind those of an absolute one. -/
def textBehind (path : String) : Option (List Part) → String
  | none => path
  | some [] => ""
  | some (first :: more) => String.ofList (slashed (first.text ++ textOf more))

lemma relativeTo_eq {root path : String} (hroot : isAbsolute root = true)
    (hpath : isAbsolute path = true) :
    relativeTo root path = textBehind path (partsAfter? (parts root) (parts path)) := by
  rw [relativeTo, after?, hroot, hpath]
  rcases partsAfter? (parts root) (parts path) with _ | (_ | ⟨first, more⟩)
  · rfl
  · rfl
  · simp [textBehind, slashed]

/-- What parts of an absolute path spell is told by their texts, however they are written. -/
lemma components_slashed_congr {first first' : Part} {more more' : List Part}
    (hparts : ∀ part ∈ first :: more, IsPart part) (hparts' : ∀ part ∈ first' :: more', IsPart part)
    (h : (first :: more).map (·.text) = (first' :: more').map (·.text)) :
    components (String.ofList (slashed (first.text ++ textOf more))) =
        components (String.ofList (slashed (first'.text ++ textOf more'))) ∧
      isAbsolute (String.ofList (slashed (first.text ++ textOf more))) =
        isAbsolute (String.ofList (slashed (first'.text ++ textOf more'))) := by
  rw [List.map_cons, List.map_cons, List.cons.injEq] at h
  obtain ⟨hfirst, hmore⟩ := h
  obtain ⟨pieces, hpieces, hcount⟩ := exists_splitAt_textOf first.text fun part hmem =>
    hparts part (List.mem_cons_of_mem first hmem)
  obtain ⟨pieces', hpieces', hcount'⟩ := exists_splitAt_textOf first.text fun part hmem =>
    hparts' part (List.mem_cons_of_mem first' hmem)
  have hhead (rest : List Char) :
      (slashed (first.text ++ rest)).head? = (slashed first.text).head? := by
    obtain ⟨c, text, htext⟩ := List.exists_cons_of_ne_nil
      ((counts_iff _).mp (hparts first List.mem_cons_self).counts).1
    rw [htext]
    rfl
  rw [← hfirst]
  constructor
  · refine components_ofList_congr hpieces hpieces' (splitAt_ne_nil _ _) ?_ ?_
    · rw [hhead, hhead]
    · rw [hcount, hcount', hmore]
  · rw [isAbsolute, isAbsolute, String.toList_ofList, String.toList_ofList, hhead, hhead]

/-- Two absolute paths with the same components have the same ones relative to an absolute path, and
both or none of them are absolute there. -/
theorem components_relativeTo_congr {root p q : String} (hroot : isAbsolute root = true)
    (hp : isAbsolute p = true) (hq : isAbsolute q = true) (h : components p = components q) :
    components (relativeTo root p) = components (relativeTo root q) ∧
      isAbsolute (relativeTo root p) = isAbsolute (relativeTo root q) := by
  have hbelow : (partsAfter? (parts root) (parts p)).isSome =
      (partsAfter? (parts root) (parts q)).isSome := by
    rw [Bool.eq_iff_iff, isSome_partsAfter?_iff, isSome_partsAfter?_iff]
    exact iff_of_eq (congrArg _ h)
  have htexts : (parts p).map (·.text) = (parts q).map (·.text) := by
    have hlists := congrArg (List.map String.toList) h
    simpa [components, Function.comp_def] using hlists
  rw [relativeTo_eq hroot hp, relativeTo_eq hroot hq]
  cases hpRest : partsAfter? (parts root) (parts p) with
  | none =>
    cases hqRest : partsAfter? (parts root) (parts q) with
    | none => exact ⟨h, hp.trans hq.symm⟩
    | some others => simp [hpRest, hqRest] at hbelow
  | some rest =>
    cases hqRest : partsAfter? (parts root) (parts q) with
    | none => simp [hpRest, hqRest] at hbelow
    | some others =>
      obtain ⟨front, hpParts, hfront⟩ := partsAfter?_eq_some hpRest
      obtain ⟨front', hqParts, hfront'⟩ := partsAfter?_eq_some hqRest
      rw [hpParts, hqParts, List.map_append, List.map_append, hfront, hfront'] at htexts
      have hrest := List.append_cancel_left htexts
      have hparts : ∀ part ∈ rest, IsPart part := fun part hmem =>
        isPart_of_mem_parts hp (hpParts ▸ List.mem_append_right front hmem)
      have hparts' : ∀ part ∈ others, IsPart part := fun part hmem =>
        isPart_of_mem_parts hq (hqParts ▸ List.mem_append_right front' hmem)
      cases rest with
      | nil =>
        obtain rfl : others = [] := List.map_eq_nil_iff.mp hrest.symm
        exact ⟨rfl, rfl⟩
      | cons first more =>
        cases others with
        | nil => cases hrest
        | cons first' more' => exact components_slashed_congr hparts hparts' hrest

end GapAudit.Path
