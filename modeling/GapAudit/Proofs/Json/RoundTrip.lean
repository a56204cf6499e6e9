import Mathlib
import GapAudit.Proofs.Json.Legible
import GapAudit.Proofs.Json.Quoted

/-!
# Values read from their texts

A legible value is read from its text, in either layout, up to doubles that are not finite: those
are written as `null` and stay lost (`parse?_print`). The induction is over the value, with the
items of an array and the members of an object beside it.
-/

namespace GapAudit.Json

open Reader

/-- A character that a value may begin with. -/
def opensValue (c : Char) : Bool :=
  !(c == ' ' || c == '\n' || c == '\t' || c == '\r' || c == ']')

lemma skipBlanks_of_opensValue {c : Char} (s : List Char) (h : opensValue c = true) :
    skipBlanks (c :: s) = c :: s := by
  unfold skipBlanks
  rw [List.dropWhile_cons_of_neg]
  intro hblank
  simp only [opensValue, Bool.not_eq_true', Bool.or_eq_false_iff] at h
  simp [h] at hblank

lemma opensValue_of_isNumeralChar {c : Char} (h : Decimal.isNumeralChar c = true) :
    opensValue c = true := by
  simp only [opensValue, Bool.not_eq_true', Bool.or_eq_false_iff, beq_eq_false_iff_ne]
  refine ⟨⟨⟨⟨?_, ?_⟩, ?_⟩, ?_⟩, ?_⟩ <;> rintro rfl <;> exact Bool.noConfusion h

lemma skipBlanks_lineBreak (layout : Layout) (depth : Nat) (s : List Char) :
    skipBlanks (layout.lineBreak depth ++ s) = skipBlanks s := by
  have hspaces : ∀ n, skipBlanks (List.replicate n ' ' ++ s) = skipBlanks s := by
    intro n
    induction n with
    | zero => rfl
    | succ n ih =>
      rw [List.replicate_succ, List.cons_append]
      exact ih
  cases layout with
  | compact => rfl
  | indented => exact hspaces (2 * depth)

lemma opensValue_of_numeral {s : List Char} (hs : s ≠ [])
    (h : ∀ c ∈ s, Decimal.isNumeralChar c = true) :
    ∃ c cs, s = c :: cs ∧ opensValue c = true := by
  obtain ⟨c, cs, rfl⟩ := List.exists_cons_of_ne_nil hs
  exact ⟨c, cs, rfl, opensValue_of_isNumeralChar (h c List.mem_cons_self)⟩

lemma toString_ne_nil (n : Int) : (toString n).toList ≠ [] := by
  cases n with
  | ofNat n =>
    rw [toString_ofNat]
    exact Nat.toDigits_ne_nil
  | negSucc n =>
    rw [toString_negSucc]
    exact List.cons_ne_nil _ _

lemma exists_text_eq_cons (n : Number) :
    ∃ c cs, n.text.toList = c :: cs ∧ opensValue c = true := by
  cases n with
  | whole n =>
    exact opensValue_of_numeral (toString_ne_nil n) fun c => isNumeralChar_of_mem_toString
  | real x =>
    by_cases hx : x.isFinite = true
    · refine opensValue_of_numeral ?_ fun c => isNumeralChar_of_mem_text_real hx
      intro hnil
      have hmark := mark_mem_text_real hx
      rw [hnil] at hmark
      simp at hmark
    · rw [text_real_of_not_isFinite hx]
      exact ⟨'n', _, rfl, rfl⟩

lemma exists_enclose_eq_cons (layout : Layout) (depth : Nat) (opening closing : Char)
    (items : List (List Char)) :
    ∃ cs, layout.enclose depth opening closing items = opening :: cs := by
  unfold Layout.enclose
  split
  · exact ⟨_, rfl⟩
  · exact ⟨_, rfl⟩

lemma exists_print_eq_cons (layout : Layout) (depth : Nat) (value : Json) :
    ∃ c cs, value.print layout depth = c :: cs ∧ opensValue c = true := by
  cases value with
  | null => exact ⟨'n', _, rfl, rfl⟩
  | bool b =>
    cases b with
    | true => exact ⟨'t', _, rfl, rfl⟩
    | false => exact ⟨'f', _, rfl, rfl⟩
  | number n => exact exists_text_eq_cons n
  | string s => exact ⟨'"', _, rfl, rfl⟩
  | array items =>
    obtain ⟨cs, hcs⟩ := exists_enclose_eq_cons layout depth '[' ']'
      (printItems layout (depth + 1) items)
    exact ⟨'[', cs, hcs, rfl⟩
  | object members =>
    obtain ⟨cs, hcs⟩ := exists_enclose_eq_cons layout depth '\x7b' '\x7d'
      (printMembers layout (depth + 1) members)
    exact ⟨'\x7b', cs, hcs, rfl⟩

lemma skipBlanks_print (layout : Layout) (depth : Nat) (value : Json) (rest : List Char) :
    skipBlanks (value.print layout depth ++ rest) = value.print layout depth ++ rest := by
  obtain ⟨c, cs, hcs, hc⟩ := exists_print_eq_cons layout depth value
  rw [hcs, List.cons_append, skipBlanks_of_opensValue _ hc]

lemma delimited_lineBreak (layout : Layout) (depth : Nat) {c : Char} (rest : List Char)
    (hc : Decimal.isNumeralChar c = false) : Delimited (layout.lineBreak depth ++ c :: rest) := by
  cases layout with
  | compact =>
    intro d hd
    obtain rfl : c = d := by simpa [Layout.lineBreak] using hd
    exact hc
  | indented =>
    intro d hd
    obtain rfl : '\n' = d := by simpa [Layout.lineBreak] using hd
    rfl

lemma delimited_comma (rest : List Char) : Delimited (',' :: rest) := by
  intro c hc
  obtain rfl : ',' = c := by simpa using hc
  rfl

lemma append_comma_append (a b c d : List Char) :
    (a ++ ',' :: (b ++ c)) ++ d = a ++ ',' :: (b ++ (c ++ d)) := by
  simp

lemma skipBlanks_lineBreak_cons (layout : Layout) (depth : Nat) {c : Char} (rest : List Char)
    (hc : skipBlanks (c :: rest) = c :: rest) :
    skipBlanks (layout.lineBreak depth ++ c :: rest) = c :: rest := by
  rw [skipBlanks_lineBreak, hc]

lemma separated_cons_cons (separator piece next : List Char) (pieces : List (List Char)) :
    separated separator (piece :: next :: pieces) =
      piece ++ separator ++ separated separator (next :: pieces) :=
  rfl

lemma items?_lineBreak (layout : Layout) (depth fuel : Nat) (s : List Char) :
    items? fuel (layout.lineBreak depth ++ s) = items? fuel s := by
  cases fuel with
  | zero => rfl
  | succ fuel => rw [items?, items?, skipBlanks_lineBreak]

lemma members?_lineBreak (layout : Layout) (depth fuel : Nat) (s : List Char) :
    members? fuel (layout.lineBreak depth ++ s) = members? fuel s := by
  cases fuel with
  | zero => rfl
  | succ fuel => rw [members?, members?, skipBlanks_lineBreak]

lemma value?_array {fuel : Nat} {s rest : List Char} {items : List Json}
    (hs : ∀ c ∈ (skipBlanks s).head?, c ≠ ']')
    (hitems : items? fuel (skipBlanks s) = some (items, rest)) :
    value? (fuel + 1) ('[' :: s) = some (.array items, rest) := by
  rw [value?]
  split
  next rest' heq =>
    rw [heq] at hs
    exact absurd rfl (hs ']' rfl)
  next => rw [hitems]; rfl

lemma items?_last {fuel : Nat} {s after rest : List Char} {item : Json}
    (hitem : value? fuel (skipBlanks s) = some (item, after))
    (hafter : skipBlanks after = ']' :: rest) : items? (fuel + 1) s = some ([item], rest) := by
  rw [items?, hitem]
  simp only [Option.bind_eq_bind, Option.bind_some, hafter]

lemma items?_next {fuel : Nat} {s after more rest : List Char} {item : Json} {items : List Json}
    (hitem : value? fuel (skipBlanks s) = some (item, after))
    (hafter : skipBlanks after = ',' :: more) (hmore : items? fuel more = some (items, rest)) :
    items? (fuel + 1) s = some (item :: items, rest) := by
  rw [items?, hitem]
  simp only [Option.bind_eq_bind, Option.bind_some, hafter, hmore]

lemma value?_object {fuel : Nat} {s rest : List Char} {members : List (Option String × Json)}
    (hs : ∀ c ∈ (skipBlanks s).head?, c ≠ '\x7d')
    (hmembers : members? fuel (skipBlanks s) = some (members, rest)) :
    value? (fuel + 1) ('\x7b' :: s) = some (.object members, rest) := by
  rw [value?]
  split
  next rest' heq =>
    rw [heq] at hs
    exact absurd rfl (hs '\x7d' rfl)
  next => rw [hmembers]; rfl

lemma members?_last {fuel : Nat} {s body after value rest : List Char} {key : Option String}
    {item : Json} (hs : skipBlanks s = '"' :: body) (hkey : string? body = some (key, after))
    (hcolon : skipBlanks after = ':' :: value)
    (hvalue : value? fuel (skipBlanks value) = some (item, rest)) {rest' : List Char}
    (hrest : skipBlanks rest = '\x7d' :: rest') :
    members? (fuel + 1) s = some ([(key, item)], rest') := by
  rw [members?, hs]
  simp only [Option.bind_eq_bind, Option.bind_some, hkey, hcolon, hvalue, hrest]

lemma members?_next {fuel : Nat} {s body after value rest more : List Char} {key : Option String}
    {item : Json} {members : List (Option String × Json)} (hs : skipBlanks s = '"' :: body)
    (hkey : string? body = some (key, after)) (hcolon : skipBlanks after = ':' :: value)
    (hvalue : value? fuel (skipBlanks value) = some (item, rest))
    (hrest : skipBlanks rest = ',' :: more) {rest' : List Char}
    (hmore : members? fuel more = some (members, rest')) :
    members? (fuel + 1) s = some ((key, item) :: members, rest') := by
  rw [members?, hs]
  simp only [Option.bind_eq_bind, Option.bind_some, hkey, hcolon, hvalue, hrest, hmore]

lemma value?_number {n m : Number} {fuel : Nat} {rest : List Char}
    (hrest : Delimited rest) (hread : number? n.text.toList = some (m, []))
    (hchars : ∀ c ∈ n.text.toList, Decimal.isNumeralChar c = true) :
    value? (fuel + 1) (n.text.toList ++ rest) = some (.number m, rest) := by
  obtain ⟨c, cs, hcons, -⟩ := exists_text_eq_cons n
  have hc : Decimal.isNumeralChar c = true := hchars c (hcons ▸ List.mem_cons_self)
  have hwhole := number?_append hrest hread
  rw [hcons, List.cons_append] at hwhole ⊢
  rw [value?_of_isNumeralChar _ _ hc, hwhole]
  rfl

lemma value?_literals (fuel : Nat) (rest : List Char) :
    value? (fuel + 1) ('n' :: 'u' :: 'l' :: 'l' :: rest) = some (.null, rest) ∧
      value? (fuel + 1) ('t' :: 'r' :: 'u' :: 'e' :: rest) = some (.bool true, rest) ∧
      value? (fuel + 1) ('f' :: 'a' :: 'l' :: 's' :: 'e' :: rest) = some (.bool false, rest) := by
  simp [value?, Text.after?]

lemma value?_text_number {n : Number} {fuel : Nat} {rest : List Char} (hrest : Delimited rest)
    (h : Legible (.number n)) :
    value? (fuel + 1) (n.text.toList ++ rest) = some (asRead (.number n), rest) := by
  cases n with
  | whole n =>
    exact value?_number hrest (number?_toString h.1 h.2) fun c => isNumeralChar_of_mem_toString
  | real x =>
    by_cases hx : x.isFinite = true
    · rw [asRead, if_pos hx]
      exact value?_number hrest (number?_text_real hx (h hx))
        fun c => isNumeralChar_of_mem_text_real hx
    · rw [asRead, if_neg hx, text_real_of_not_isFinite hx]
      exact (value?_literals fuel rest).1

lemma colon_append (layout : Layout) (s : List Char) :
    ∃ after, layout.colon ++ s = ':' :: after ∧ skipBlanks after = skipBlanks s := by
  cases layout with
  | compact => exact ⟨s, rfl, rfl⟩
  | indented => exact ⟨' ' :: s, rfl, rfl⟩

lemma length_pos_print (layout : Layout) (depth : Nat) (value : Json) :
    0 < (value.print layout depth).length := by
  obtain ⟨c, cs, hcs, -⟩ := exists_print_eq_cons layout depth value
  simp [hcs]

/-- The first member of an object is read from its text. -/
lemma member_print (layout : Layout) (depth : Nat) (key : String) (value : Json)
    (rest : List Char) :
    ∃ body after text,
      skipBlanks ((quoted key ++ layout.colon ++ value.print layout depth) ++ rest) =
        '"' :: body ∧ string? body = some (some key, after) ∧ skipBlanks after = ':' :: text ∧
      skipBlanks text = value.print layout depth ++ rest := by
  obtain ⟨body, hbody, hkey⟩ :=
    string?_quoted key (layout.colon ++ (value.print layout depth ++ rest))
  obtain ⟨text, htext, hblanks⟩ := colon_append layout (value.print layout depth ++ rest)
  refine ⟨body, layout.colon ++ (value.print layout depth ++ rest), text, ?_, hkey, ?_, ?_⟩
  · rw [List.append_assoc, List.append_assoc, hbody]
    rfl
  · rw [htext]
    rfl
  · rw [hblanks, skipBlanks_print]

/-- The texts of items with what separates them. -/
def itemsText (layout : Layout) (depth : Nat) (items : List Json) : List Char :=
  separated (',' :: layout.lineBreak depth) (printItems layout depth items)

/-- The texts of members with what separates them. -/
def membersText (layout : Layout) (depth : Nat) (members : List (Option String × Json)) :
    List Char :=
  separated (',' :: layout.lineBreak depth) (printMembers layout depth members)

lemma itemsText_singleton (layout : Layout) (depth : Nat) (item : Json) :
    itemsText layout depth [item] = item.print layout depth :=
  rfl

lemma itemsText_cons (layout : Layout) (depth : Nat) (item : Json) {items : List Json}
    (hne : items ≠ []) :
    itemsText layout depth (item :: items) =
      item.print layout depth ++
        ',' :: (layout.lineBreak depth ++ itemsText layout depth items) := by
  obtain ⟨next, items, rfl⟩ := List.exists_cons_of_ne_nil hne
  simp only [itemsText, printItems, separated_cons_cons, List.append_assoc, List.cons_append]

lemma membersText_singleton (layout : Layout) (depth : Nat) (key : Option String) (value : Json) :
    membersText layout depth [(key, value)] =
      quoted (key.getD "") ++ layout.colon ++ value.print layout depth :=
  rfl

lemma membersText_cons (layout : Layout) (depth : Nat) (key : Option String) (value : Json)
    {members : List (Option String × Json)} (hne : members ≠ []) :
    membersText layout depth ((key, value) :: members) =
      (quoted (key.getD "") ++ layout.colon ++ value.print layout depth) ++
        ',' :: (layout.lineBreak depth ++ membersText layout depth members) := by
  obtain ⟨⟨nextKey, next⟩, members, rfl⟩ := List.exists_cons_of_ne_nil hne
  simp only [membersText, printMembers, separated_cons_cons, List.append_assoc, List.cons_append]

lemma print_array (layout : Layout) (depth : Nat) {items : List Json} (hne : items ≠ []) :
    (Json.array items).print layout depth =
      '[' :: (layout.lineBreak (depth + 1) ++
        (itemsText layout (depth + 1) items ++ (layout.lineBreak depth ++ [']']))) := by
  obtain ⟨item, items, rfl⟩ := List.exists_cons_of_ne_nil hne
  simp [print, Layout.enclose, printItems, itemsText]

lemma print_object (layout : Layout) (depth : Nat) {members : List (Option String × Json)}
    (hne : members ≠ []) :
    (Json.object members).print layout depth =
      '\x7b' :: (layout.lineBreak (depth + 1) ++
        (membersText layout (depth + 1) members ++ (layout.lineBreak depth ++ ['\x7d']))) := by
  obtain ⟨⟨key, value⟩, members, rfl⟩ := List.exists_cons_of_ne_nil hne
  simp [print, Layout.enclose, printMembers, membersText]

lemma exists_itemsText_eq_cons (layout : Layout) (depth : Nat) {items : List Json}
    (hne : items ≠ []) :
    ∃ c cs, itemsText layout depth items = c :: cs ∧ opensValue c = true := by
  obtain ⟨item, items, rfl⟩ := List.exists_cons_of_ne_nil hne
  obtain ⟨c, cs, hcs, hc⟩ := exists_print_eq_cons layout depth item
  by_cases hmore : items = []
  · subst hmore
    exact ⟨c, cs, hcs, hc⟩
  · rw [itemsText_cons layout depth item hmore, hcs]
    exact ⟨c, _, rfl, hc⟩

lemma skipBlanks_itemsText (layout : Layout) (depth : Nat) {items : List Json} (hne : items ≠ [])
    (rest : List Char) :
    skipBlanks (layout.lineBreak depth ++ (itemsText layout depth items ++ rest)) =
      itemsText layout depth items ++ rest := by
  obtain ⟨c, cs, hcs, hc⟩ := exists_itemsText_eq_cons layout depth hne
  rw [skipBlanks_lineBreak, hcs]
  exact skipBlanks_of_opensValue _ hc

lemma head_itemsText_ne (layout : Layout) (depth : Nat) {items : List Json} (hne : items ≠ [])
    (rest : List Char) : ∀ c ∈ (itemsText layout depth items ++ rest).head?, c ≠ ']' := by
  obtain ⟨c, cs, hcs, hc⟩ := exists_itemsText_eq_cons layout depth hne
  rw [hcs]
  rintro d hd rfl
  obtain rfl : c = ']' := by simpa using hd
  exact Bool.noConfusion hc

lemma exists_membersText_eq_cons (layout : Layout) (depth : Nat)
    {members : List (Option String × Json)} (hne : members ≠ []) :
    ∃ cs, membersText layout depth members = '"' :: cs := by
  obtain ⟨⟨key, value⟩, members, rfl⟩ := List.exists_cons_of_ne_nil hne
  by_cases hmore : members = []
  · subst hmore
    exact ⟨_, rfl⟩
  · rw [membersText_cons layout depth key value hmore]
    exact ⟨_, rfl⟩

/-! ### Values, items and members -/

mutual

/-- A legible value is read from its text wherever it stands. -/
theorem value?_print (layout : Layout) (depth : Nat) : (value : Json) → Legible value →
    ∀ (fuel : Nat) (rest : List Char), Delimited rest →
    2 * (value.print layout depth).length ≤ fuel →
    value? fuel (value.print layout depth ++ rest) = some (asRead value, rest) := by
  intro value hvalue fuel rest hrest hfuel
  have hpos := length_pos_print layout depth value
  -- Twice the length is fuel enough: each bracket and each comma is left for two calls at most.
  obtain ⟨fuel, rfl⟩ : ∃ n, fuel = n + 1 := ⟨fuel - 1, by omega⟩
  cases value with
  | null => exact (value?_literals fuel rest).1
  | bool b =>
    cases b with
    | true => exact (value?_literals fuel rest).2.1
    | false => exact (value?_literals fuel rest).2.2
  | number n => exact value?_text_number hrest hvalue
  | string s =>
    obtain ⟨text, rfl⟩ := Option.isSome_iff_exists.mp hvalue
    obtain ⟨after, hafter, hread⟩ := string?_quoted text rest
    change value? (fuel + 1) (quoted text ++ rest) = _
    rw [hafter, value?, hread]
    rfl
  | array items =>
    by_cases hne : items = []
    · subst hne
      rfl
    · rw [print_array layout depth hne] at hfuel ⊢
      simp only [List.length_cons, List.length_append] at hfuel
      have hitems := items?_print layout depth (depth + 1) items hne hvalue fuel rest
        (by omega)
      have hbody := skipBlanks_itemsText layout (depth + 1) hne
        (layout.lineBreak depth ++ ']' :: rest)
      simp only [List.cons_append, List.append_assoc, List.nil_append]
      refine value?_array ?_ ?_
      · rw [hbody]
        exact head_itemsText_ne layout (depth + 1) hne _
      · rw [hbody]
        exact hitems
  | object members =>
    by_cases hne : members = []
    · subst hne
      rfl
    · rw [print_object layout depth hne] at hfuel ⊢
      simp only [List.length_cons, List.length_append] at hfuel
      have hmembers := members?_print layout depth (depth + 1) members hne hvalue fuel rest
        (by omega)
      obtain ⟨cs, hcs⟩ := exists_membersText_eq_cons layout (depth + 1) hne
      have hbody : skipBlanks (layout.lineBreak (depth + 1) ++
          (membersText layout (depth + 1) members ++
            (layout.lineBreak depth ++ '\x7d' :: rest))) =
          membersText layout (depth + 1) members ++ (layout.lineBreak depth ++ '\x7d' :: rest) := by
        rw [skipBlanks_lineBreak, hcs]
        exact skipBlanks_of_opensValue _ rfl
      simp only [List.cons_append, List.append_assoc, List.nil_append]
      refine value?_object ?_ ?_
      · rw [hbody, hcs]
        rintro c hc rfl
        simp at hc
      · rw [hbody]
        exact hmembers

/-- The items of an array are read from their texts. -/
theorem items?_print (layout : Layout) (outer depth : Nat) : (items : List Json) → items ≠ [] →
    LegibleItems items → ∀ (fuel : Nat) (rest : List Char),
    2 * (itemsText layout depth items).length + 1 ≤ fuel →
    items? fuel (itemsText layout depth items ++ (layout.lineBreak outer ++ ']' :: rest)) =
      some (asReadItems items, rest)
  | [], hne, _, _, _, _ => absurd rfl hne
  | item :: items, _, hitems, fuel, rest, hfuel => by
    obtain ⟨fuel, rfl⟩ : ∃ n, fuel = n + 1 := ⟨fuel - 1, by omega⟩
    by_cases hne : items = []
    · subst hne
      have hdelimited : Delimited (layout.lineBreak outer ++ ']' :: rest) :=
        delimited_lineBreak layout outer rest rfl
      have hitem := value?_print layout depth item hitems.1 fuel _ hdelimited
        (Nat.le_of_succ_le_succ hfuel)
      refine items?_last ?_ (skipBlanks_lineBreak_cons layout outer rest rfl)
      rw [itemsText_singleton, skipBlanks_print]
      exact hitem
    · rw [itemsText_cons layout depth item hne] at hfuel ⊢
      simp only [List.length_append, List.length_cons] at hfuel
      have hmore := items?_print layout outer depth items hne hitems.2 fuel rest (by omega)
      rw [← items?_lineBreak layout depth] at hmore
      rw [append_comma_append]
      -- Whatever comes after the comma, this item is read without it.
      generalize layout.lineBreak depth ++ (itemsText layout depth items ++ _) = more at hmore ⊢
      have hitem := value?_print layout depth item hitems.1 fuel (',' :: more)
        (delimited_comma more) (by omega)
      refine items?_next ?_ (skipBlanks_of_opensValue more rfl) hmore
      rw [skipBlanks_print]
      exact hitem

/-- The members of an object are read from their texts. -/
theorem members?_print (layout : Layout) (outer depth : Nat) :
    (members : List (Option String × Json)) → members ≠ [] → LegibleMembers members →
    ∀ (fuel : Nat) (rest : List Char),
    2 * (membersText layout depth members).length + 1 ≤ fuel →
    members? fuel (membersText layout depth members ++ (layout.lineBreak outer ++ '\x7d' :: rest)) =
      some (asReadMembers members, rest)
  | [], hne, _, _, _, _ => absurd rfl hne
  | (key, value) :: members, _, hmembers, fuel, rest, hfuel => by
    obtain ⟨fuel, rfl⟩ : ∃ n, fuel = n + 1 := ⟨fuel - 1, by omega⟩
    obtain ⟨hkey, hvalue, hrest⟩ := hmembers
    obtain ⟨key, rfl⟩ := Option.isSome_iff_exists.mp hkey
    by_cases hne : members = []
    · subst hne
      rw [membersText_singleton] at hfuel ⊢
      simp only [List.length_append] at hfuel
      have hdelimited : Delimited (layout.lineBreak outer ++ '\x7d' :: rest) :=
        delimited_lineBreak layout outer rest rfl
      have hread := value?_print layout depth value hvalue fuel _ hdelimited (by omega)
      obtain ⟨body, after, text, hbody, hname, hcolon, htext⟩ := member_print layout depth key value
        (layout.lineBreak outer ++ '\x7d' :: rest)
      refine members?_last hbody hname hcolon ?_ (skipBlanks_lineBreak_cons layout outer rest rfl)
      rw [htext]
      exact hread
    · rw [membersText_cons layout depth _ value hne] at hfuel ⊢
      simp only [List.length_append, List.length_cons] at hfuel
      have hmore := members?_print layout outer depth members hne hrest fuel rest (by omega)
      rw [← members?_lineBreak layout depth] at hmore
      rw [append_comma_append]
      generalize layout.lineBreak depth ++ (membersText layout depth members ++ _) = more at hmore ⊢
      have hread := value?_print layout depth value hvalue fuel (',' :: more) (delimited_comma more)
        (by omega)
      obtain ⟨body, after, text, hbody, hname, hcolon, htext⟩ :=
        member_print layout depth key value (',' :: more)
      refine members?_next hbody hname hcolon ?_ (skipBlanks_of_opensValue more rfl) hmore
      rw [htext]
      exact hread

end

/-- A legible value is read from its text in either layout. -/
theorem parse?_print (layout : Layout) {value : Json} (h : Legible value) :
    parse? (String.ofList (value.print layout 0)) = some (asRead value) := by
  refine parse?_eq_some_iff.mpr ⟨[], ?_, rfl⟩
  have hread := value?_print layout 0 value h (2 * (value.print layout 0).length + 2) []
    (by intro c hc; simp at hc) (by omega)
  have hblanks := skipBlanks_print layout 0 value []
  rw [List.append_nil] at hread hblanks
  rw [String.toList_ofList, hblanks]
  exact hread

end GapAudit.Json
