import Mathlib
import GapAudit.Proofs.Json.Legible
import GapAudit.Proofs.Decimal.Finite
import GapAudit.Proofs.Keyed
import GapAudit.Report.Codec

/-!
# Forms that lose nothing

A form of some type in JSON is lossless if a value comes back from what its form is read as, unless
a double in it is not finite: then nothing comes back (`Lossless`). Lists and collections of values
with a lossless form have one too (`Lossless.list`, `Lossless.keyed`).
-/

namespace GapAudit.Json

lemma asRead_ofMembers (members : List (String × Json)) :
    (ofMembers members).asRead =
      ofMembers (members.map fun member => (member.1, member.2.asRead)) := by
  simp only [ofMembers, asRead, asReadMembers_eq_map, List.map_map, Function.comp_def]

lemma legible_ofMembers {members : List (String × Json)} :
    (ofMembers members).Legible ↔ ∀ member ∈ members, member.2.Legible := by
  simp only [ofMembers, Legible, legibleMembers_iff, List.forall_mem_map, Option.isSome_some,
    true_and]

lemma mapM_some_map {α β : Type} {f : α → Option β} (g : α → β) {xs : List α}
    (h : ∀ x ∈ xs, f x = some (g x)) : xs.mapM f = some (xs.map g) := by
  induction xs with
  | nil => rfl
  | cons x xs ih =>
    rw [List.mapM_cons, h x List.mem_cons_self, ih fun y hy => h y (List.mem_cons_of_mem _ hy)]
    rfl

lemma toMembers?_ofMembers (members : List (String × Json)) :
    (ofMembers members).toMembers? = some members := by
  have hmembers : members.mapM some = some (members.map id) := mapM_some_map id fun _ _ => rfl
  rw [List.map_id] at hmembers
  rw [ofMembers, toMembers?, List.mapM_map]
  exact hmembers

lemma filter_key_of_notMem {members : List (String × Json)} {name : String}
    (h : name ∉ members.map (·.1)) : members.filter (·.1 == name) = [] := by
  rw [List.filter_eq_nil_iff]
  intro member hmember hname
  exact h (List.mem_map.mpr ⟨member, hmember, beq_iff_eq.mp hname⟩)

lemma filter_key_of_mem {members : List (String × Json)} (hnodup : (members.map (·.1)).Nodup)
    {member : String × Json} (h : member ∈ members) :
    members.filter (·.1 == member.1) = [member] := by
  induction members with
  | nil => simp at h
  | cons first rest ih =>
    rw [List.map_cons, List.nodup_cons] at hnodup
    rcases List.mem_cons.mp h with rfl | hrest
    · rw [List.filter_cons_of_pos (by simp), filter_key_of_notMem hnodup.1]
    · have hne : first.1 ≠ member.1 := by
        intro heq
        exact hnodup.1 (heq ▸ List.mem_map_of_mem hrest)
      rw [List.filter_cons_of_neg (by simpa using hne), ih hnodup.2 hrest]

/-- A record is read field by field; fields that are missing at its end are found missing. -/
lemma toFields?_ofMembers {names : List String} (members : List (String × Json))
    (missing : List String) (hnames : names = members.map (·.1) ++ missing)
    (hnodup : names.Nodup) :
    toFields? names (ofMembers members) =
      some (members.map (fun member => some member.2) ++ missing.map fun _ => none) := by
  subst hnames
  obtain ⟨hkeys, -, hdisjoint⟩ := List.nodup_append.mp hnodup
  change ((ofMembers members).toMembers? >>= fun members => _) = _
  rw [toMembers?_ofMembers]
  change List.mapM _ _ = _
  rw [List.mapM_append, List.mapM_map,
    mapM_some_map fun member : String × Json => some member.2, mapM_some_map fun _ => none]
  · rfl
  · intro name hname
    have habsent : name ∉ members.map (·.1) := by
      intro hmem
      exact hdisjoint name hmem name hname rfl
    rw [filter_key_of_notMem habsent]
  · intro member hmember
    simp only [Function.comp_apply, filter_key_of_mem hkeys hmember]

lemma toFields?_asRead {names : List String} (members : List (String × Json))
    (missing : List String) (hnames : names = members.map (·.1) ++ missing)
    (hnodup : names.Nodup) :
    toFields? names (ofMembers members).asRead =
      some (members.map (fun member => some member.2.asRead) ++ missing.map fun _ => none) := by
  have hread : names =
      (members.map fun member => (member.1, member.2.asRead)).map (·.1) ++ missing := by
    rw [hnames, List.map_map]
    rfl
  rw [asRead_ofMembers, toFields?_ofMembers _ missing hread hnodup, List.map_map]
  rfl

/-- A form of a type in JSON, as it is written and read: whatever is read fits the type and has
finite doubles only, and a value that fits is read from its form unless a double in it is not
finite. -/
structure Lossless {α : Type} (encode : α → Json) (decode : Json → Option α)
    (fits : α → Prop) (doubles : α → List Float) : Prop where
  legible : ∀ x, fits x → (∀ d ∈ doubles x, d.isFinite = true → ReadsBack d) → (encode x).Legible
  recovered : ∀ x, fits x →
    decode (encode x).asRead = if (doubles x).all Float.isFinite then some x else none
  sound : ∀ {value : Json} {x : α}, decode value = some x →
    fits x ∧ (doubles x).all Float.isFinite = true

namespace Lossless

variable {α : Type} {encode : α → Json} {decode : Json → Option α} {fits : α → Prop}
  {doubles : α → List Float}

lemma mapM_recovered {β γ : Type} {read : γ → Option β} {form : β → γ} {doubles : β → List Float}
    {xs : List β}
    (h : ∀ x ∈ xs, read (form x) = if (doubles x).all Float.isFinite then some x else none) :
    (xs.map form).mapM read =
      if (xs.flatMap doubles).all Float.isFinite then some xs else none := by
  induction xs with
  | nil => rfl
  | cons x xs ih =>
    rw [List.map_cons, List.mapM_cons, h x List.mem_cons_self,
      ih fun y hy => h y (List.mem_cons_of_mem _ hy), List.flatMap_cons, List.all_append]
    by_cases hx : (doubles x).all Float.isFinite = true
    · by_cases hxs : (xs.flatMap doubles).all Float.isFinite = true <;> simp [hx, hxs]
    · simp [hx]

lemma recovered_of_finite (h : Lossless encode decode fits doubles) {x : α} (hfits : fits x)
    (hfinite : (doubles x).all Float.isFinite = true) : decode (encode x).asRead = some x := by
  rw [h.recovered x hfits, if_pos hfinite]

lemma exists_of_mem_mapM {β γ : Type} {f : β → Option γ} {xs : List β} {ys : List γ}
    (h : xs.mapM f = some ys) : ∀ y ∈ ys, ∃ x ∈ xs, f x = some y := by
  induction xs generalizing ys with
  | nil =>
    obtain rfl : [] = ys := by simpa using h
    simp
  | cons x xs ih =>
    rw [List.mapM_cons] at h
    obtain ⟨first, hfirst, h⟩ := Option.bind_eq_some_iff.mp h
    obtain ⟨rest, hrest, h⟩ := Option.bind_eq_some_iff.mp h
    obtain rfl : first :: rest = ys := by simpa using h
    intro y hy
    rcases List.mem_cons.mp hy with rfl | hmem
    · exact ⟨x, List.mem_cons_self, hfirst⟩
    · obtain ⟨x', hx', hy'⟩ := ih hrest y hmem
      exact ⟨x', List.mem_cons_of_mem x hx', hy'⟩

/-- A list of values with a lossless form has one too. -/
theorem list (h : Lossless encode decode fits doubles) :
    Lossless (ofList encode) (toList? decode) (fun xs => ∀ x ∈ xs, fits x)
      (fun xs => xs.flatMap doubles) where
  legible := by
    intro xs hfits hread
    change LegibleItems (xs.map encode)
    rw [legibleItems_iff]
    intro item hitem
    obtain ⟨x, hx, rfl⟩ := List.mem_map.mp hitem
    exact h.legible x (hfits x hx) fun d hd => hread d (List.mem_flatMap.mpr ⟨x, hx, hd⟩)
  recovered := by
    intro xs hfits
    have hitems : asReadItems (xs.map encode) = xs.map fun x => (encode x).asRead := by
      rw [asReadItems_eq_map, List.map_map]
      rfl
    change (asReadItems (xs.map encode)).mapM decode = _
    rw [hitems]
    exact mapM_recovered fun x hx => h.recovered x (hfits x hx)
  sound := by
    intro value xs hvalue
    cases value with
    | array items =>
      have hsound : ∀ x ∈ xs, fits x ∧ (doubles x).all Float.isFinite = true := by
        intro x hx
        obtain ⟨item, -, hitem⟩ := exists_of_mem_mapM hvalue x hx
        exact h.sound hitem
      refine ⟨fun x hx => (hsound x hx).1, ?_⟩
      rw [List.all_flatMap, List.all_eq_true]
      exact fun x hx => (hsound x hx).2
    | _ => simp [toList?] at hvalue

/-- A collection of values with a lossless form has one too. -/
theorem keyed (h : Lossless encode decode fits doubles) :
    Lossless (ofKeyed encode) (toKeyed? decode) (fun m => ∀ entry ∈ m.entries, fits entry.2)
      (fun m => m.entries.flatMap fun entry => doubles entry.2) where
  legible := by
    intro m hfits hread
    rw [ofKeyed, legible_ofMembers]
    intro member hmember
    obtain ⟨entry, hentry, rfl⟩ := List.mem_map.mp hmember
    exact h.legible entry.2 (hfits entry hentry)
      fun d hd => hread d (List.mem_flatMap.mpr ⟨entry, hentry, hd⟩)
  recovered := by
    intro m hfits
    have hentry : ∀ entry ∈ m.entries,
        (decode (encode entry.2).asRead).map (entry.1, ·) =
          if (doubles entry.2).all Float.isFinite then some entry else none := by
      intro entry hentry
      rw [h.recovered entry.2 (hfits entry hentry)]
      split <;> rfl
    have hentries : (m.entries.map fun entry => (entry.1, (encode entry.2).asRead)).mapM
        (fun member => (decode member.2).map (member.1, ·)) = _ := mapM_recovered hentry
    rw [ofKeyed, asRead_ofMembers, List.map_map, toKeyed?, toMembers?_ofMembers]
    change Option.bind (List.mapM _ (m.entries.map
      fun entry => (entry.1, (encode entry.2).asRead))) _ = _
    rw [hentries]
    split
    · exact congrArg some (Keyed.ofEntries_entries m)
    · rfl
  sound := by
    intro value m hvalue
    obtain ⟨members, -, hvalue⟩ := Option.bind_eq_some_iff.mp hvalue
    obtain ⟨entries, hentries, hvalue⟩ := Option.bind_eq_some_iff.mp hvalue
    obtain rfl : Keyed.ofEntries entries = m := by simpa using hvalue
    have hsound : ∀ entry ∈ (Keyed.ofEntries entries).entries,
        fits entry.2 ∧ (doubles entry.2).all Float.isFinite = true := by
      intro entry hentry
      obtain ⟨member, -, hmember⟩ := exists_of_mem_mapM hentries entry
        (Keyed.mem_of_mem_ofEntries hentry)
      obtain ⟨x, hx, rfl⟩ := Option.map_eq_some_iff.mp hmember
      exact h.sound hx
    refine ⟨fun entry hentry => (hsound entry hentry).1, ?_⟩
    rw [List.all_flatMap, List.all_eq_true]
    exact fun entry hentry => (hsound entry hentry).2

end Lossless

theorem lossless_string : Lossless ofString toString? (fun _ => True) (fun _ => []) where
  legible := fun _ _ _ => rfl
  recovered := fun _ _ => rfl
  sound := fun _ => ⟨trivial, rfl⟩

theorem lossless_count : Lossless ofNat toCount? (fun n => n < wordLimit) (fun _ => []) where
  legible := by
    intro n hn _
    change -(signedLimit : Int) ≤ n ∧ (n : Int) < wordLimit
    omega
  recovered := by
    intro n hn
    change (if (0 : Int) ≤ n && (n : Int) < wordLimit then some (n : Int).toNat else none) = some n
    rw [if_pos (by simpa using hn), Int.toNat_natCast]
  sound := by
    intro value n hvalue
    refine ⟨?_, rfl⟩
    unfold toCount? at hvalue
    split at hvalue
    next k =>
      split at hvalue
      next hrange =>
        obtain rfl : k.toNat = n := by simpa using hvalue
        simp only [Bool.and_eq_true, decide_eq_true_eq] at hrange
        omega
      · simp at hvalue
    · simp at hvalue

lemma isFinite_of_toFloat? {value : Json} {x : Float} (h : value.toFloat? = some x) :
    x.isFinite = true := by
  unfold toFloat? at h
  split at h
  next n =>
    obtain rfl := Option.some.inj h
    have hword := Decimal.isFinite_ofWord (UInt64.ofNat n.natAbs)
    split
    · exact Decimal.isFinite_neg hword
    · exact hword
  next y =>
    split at h
    next hy => exact Option.some.inj h ▸ hy
    · simp at h
  · simp at h

lemma toFloat?_asRead (x : Float) :
    (ofFloat x).asRead.toFloat? = if x.isFinite then some x else none := by
  rw [ofFloat, asRead]
  by_cases hx : x.isFinite = true
  · simp [hx, toFloat?]
  · simp [hx, toFloat?]

theorem lossless_float : Lossless ofFloat toFloat? (fun _ => True) (fun x => [x]) where
  legible := fun x _ hread => hread x List.mem_cons_self
  recovered := by
    intro x _
    rw [toFloat?_asRead, List.all_cons, List.all_nil, Bool.and_true]
  sound := by
    intro value x hvalue
    refine ⟨trivial, ?_⟩
    rw [List.all_cons, List.all_nil, Bool.and_true]
    exact isFinite_of_toFloat? hvalue

end GapAudit.Json
