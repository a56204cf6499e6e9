import Mathlib
import GapAudit.Keyed

/-!
# Content of keyed collections

A collection holds exactly the entries it was made of, in the order of their keys. The main
statements are that entries under distinct keys are only put in order (`entries_ofEntries_perm`),
that looking up a key finds its entry and nothing else (`mem_entries_iff`), and that a collection
is rebuilt from its own entries (`ofEntries_entries`).
-/

namespace GapAudit.Keyed

variable {β : Type}

lemma insertEntry_perm {key : String} {value : β} {entries : List (String × β)}
    (h : ∀ e ∈ entries, e.1 ≠ key) :
    (insertEntry key value entries).Perm ((key, value) :: entries) := by
  induction entries with
  | nil => exact List.Perm.refl _
  | cons entry rest ih =>
    have hrest := ih fun e he => h e (List.mem_cons_of_mem _ he)
    rw [insertEntry]
    by_cases hbefore : key < entry.1
    · rw [if_pos hbefore]
    · rw [if_neg hbefore]
      by_cases hbehind : entry.1 < key
      · rw [if_pos hbehind]
        exact (hrest.cons entry).trans (List.Perm.swap _ _ rest)
      · exact absurd (eq_of_not_lt hbefore hbehind).symm (h entry List.mem_cons_self)

def insertAll (m : Keyed β) (entries : List (String × β)) : Keyed β :=
  entries.foldl (fun m entry => m.insert entry.1 entry.2) m

lemma insertAll_perm (entries : List (String × β)) (m : Keyed β)
    (h : (m.entries.map (·.1) ++ entries.map (·.1)).Nodup) :
    (m.insertAll entries).entries.Perm (m.entries ++ entries) := by
  induction entries generalizing m with
  | nil => simp [insertAll]
  | cons entry rest ih =>
    have hnew : ∀ e ∈ m.entries, e.1 ≠ entry.1 := by
      intro e he heq
      have hdisj := List.disjoint_of_nodup_append h
      exact hdisj (List.mem_map_of_mem he) (by simp [heq])
    have hinsert : (m.insert entry.1 entry.2).entries.Perm (entry :: m.entries) :=
      insertEntry_perm hnew
    have hnodup : ((m.insert entry.1 entry.2).entries.map (·.1) ++ rest.map (·.1)).Nodup := by
      have hkeys := (hinsert.map (·.1)).append_right (rest.map (·.1))
      rw [hkeys.nodup_iff]
      have hmid : (m.entries.map (·.1) ++ entry.1 :: rest.map (·.1)).Perm
          (entry.1 :: (m.entries.map (·.1) ++ rest.map (·.1))) := List.perm_middle
      exact hmid.nodup_iff.mp h
    have hrest : ((m.insert entry.1 entry.2).insertAll rest).entries.Perm
        ((m.insert entry.1 entry.2).entries ++ rest) := ih _ hnodup
    exact (hrest.trans (hinsert.append_right rest)).trans List.perm_middle.symm

lemma mem_of_mem_insertAll {entries : List (String × β)} {m : Keyed β} {e : String × β}
    (h : e ∈ (m.insertAll entries).entries) : e ∈ m.entries ∨ e ∈ entries := by
  induction entries generalizing m with
  | nil => exact Or.inl h
  | cons entry rest ih =>
    have hrest : e ∈ ((m.insert entry.1 entry.2).insertAll rest).entries := h
    rcases ih hrest with hinsert | hmem
    · rcases mem_insertEntry hinsert with rfl | hold
      · exact Or.inr List.mem_cons_self
      · exact Or.inl hold
    · exact Or.inr (List.mem_cons_of_mem entry hmem)

lemma mem_of_mem_ofEntries {entries : List (String × β)} {e : String × β}
    (h : e ∈ (ofEntries entries).entries) : e ∈ entries := by
  rcases mem_of_mem_insertAll (m := empty) h with hempty | hmem
  · simp [empty] at hempty
  · exact hmem

/-- Entries under distinct keys are only put in order. -/
theorem entries_ofEntries_perm {entries : List (String × β)} (h : (entries.map (·.1)).Nodup) :
    (ofEntries entries).entries.Perm entries :=
  insertAll_perm entries empty (by simpa [empty] using h)

lemma nodup_keys (m : Keyed β) : m.keys.Nodup := by
  have h : m.keys.Pairwise (· < ·) := List.pairwise_map.mpr m.sorted
  apply h.imp
  intro a b hlt heq
  subst heq
  exact String.lt_irrefl _ hlt

lemma mem_of_lookupIn? {key : String} {value : β} {entries : List (String × β)}
    (h : lookupIn? key entries = some value) : (key, value) ∈ entries := by
  induction entries with
  | nil => simp [lookupIn?] at h
  | cons entry rest ih =>
    rw [lookupIn?] at h
    by_cases hkey : entry.1 = key
    · rw [if_pos (by simpa using hkey)] at h
      have hentry : entry = (key, value) := Prod.ext hkey (Option.some.inj h)
      exact hentry ▸ List.mem_cons_self
    · rw [if_neg (by simpa using hkey)] at h
      exact List.mem_cons_of_mem _ (ih h)

lemma lookupIn?_of_mem {key : String} {value : β} {entries : List (String × β)}
    (hnodup : (entries.map (·.1)).Nodup) (h : (key, value) ∈ entries) :
    lookupIn? key entries = some value := by
  induction entries with
  | nil => simp at h
  | cons entry rest ih =>
    obtain ⟨hfirst, hrest⟩ := List.nodup_cons.mp hnodup
    rw [lookupIn?]
    rcases List.mem_cons.mp h with heq | hmem
    · rw [← heq, if_pos (by simp)]
    · have hne : entry.1 ≠ key := by
        intro heq
        exact hfirst (List.mem_map.mpr ⟨_, hmem, heq.symm⟩)
      rw [if_neg (by simpa using hne)]
      exact ih hrest hmem

/-- Looking up a key finds exactly its entry. -/
theorem mem_entries_iff {m : Keyed β} {key : String} {value : β} :
    (key, value) ∈ m.entries ↔ m.find? key = some value :=
  ⟨lookupIn?_of_mem m.nodup_keys, mem_of_lookupIn?⟩

lemma find?_ofEntries {entries : List (String × β)} (hnodup : (entries.map (·.1)).Nodup)
    {key : String} {value : β} (h : (key, value) ∈ entries) :
    (ofEntries entries).find? key = some value :=
  mem_entries_iff.mp ((entries_ofEntries_perm hnodup).mem_iff.mpr h)

/-- The entries of a collection stand in one order only. -/
lemma eq_of_entries_perm {m m' : Keyed β} (h : m.entries.Perm m'.entries) : m = m' := by
  apply Keyed.ext
  refine List.Perm.eq_of_pairwise ?_ m.sorted m'.sorted h
  intro a b _ _ hab hba
  exact absurd (String.lt_trans hab hba) (String.lt_irrefl _)

/-- A collection is rebuilt from its own entries. -/
theorem ofEntries_entries (m : Keyed β) : ofEntries m.entries = m :=
  eq_of_entries_perm (entries_ofEntries_perm m.nodup_keys)

lemma mem_keys_iff {m : Keyed β} {key : String} : key ∈ m.keys ↔ (m.find? key).isSome = true := by
  rw [keys, List.mem_map, Option.isSome_iff_exists]
  constructor
  · rintro ⟨entry, hmem, rfl⟩
    exact ⟨entry.2, mem_entries_iff.mp hmem⟩
  · rintro ⟨value, hfind⟩
    exact ⟨(key, value), mem_entries_iff.mpr hfind, rfl⟩

lemma mem_keys_insert {m : Keyed β} {key other : String} {value : β} :
    other ∈ (m.insert key value).keys ↔ other = key ∨ other ∈ m.keys := by
  by_cases h : other = key
  · simp [h, mem_keys_iff, find?_insert_self]
  · simp [h, mem_keys_iff, find?_insert_of_ne m value h]

lemma mem_keys_insertAll {entries : List (String × β)} {m : Keyed β} {key : String} :
    key ∈ (m.insertAll entries).keys ↔ key ∈ m.keys ∨ key ∈ entries.map (·.1) := by
  induction entries generalizing m with
  | nil => simp [insertAll]
  | cons entry rest ih =>
    change key ∈ ((m.insert entry.1 entry.2).insertAll rest).keys ↔ _
    rw [ih, mem_keys_insert, List.map_cons, List.mem_cons]
    tauto

/-- A collection has the keys it was made with. -/
theorem mem_keys_ofEntries {entries : List (String × β)} {key : String} :
    key ∈ (ofEntries entries).keys ↔ key ∈ entries.map (·.1) := by
  change key ∈ (insertAll empty entries).keys ↔ _
  rw [mem_keys_insertAll]
  simp [keys, empty]

def mapValues {γ : Type} (f : β → γ) (m : Keyed β) : Keyed γ where
  entries := m.entries.map fun entry => (entry.1, f entry.2)
  sorted := List.pairwise_map.mpr m.sorted

lemma map_insertEntry {γ : Type} (f : β → γ) (key : String) (value : β)
    (entries : List (String × β)) :
    (insertEntry key value entries).map (fun entry => (entry.1, f entry.2)) =
      insertEntry key (f value) (entries.map fun entry => (entry.1, f entry.2)) := by
  induction entries with
  | nil => rfl
  | cons entry rest ih =>
    rw [insertEntry, List.map_cons, insertEntry]
    split
    · rfl
    · split
      · rw [List.map_cons, ih]
      · rfl

lemma mapValues_insertAll {γ : Type} (f : β → γ) (entries : List (String × β)) (m : Keyed β) :
    (m.insertAll entries).mapValues f =
      (m.mapValues f).insertAll (entries.map fun entry => (entry.1, f entry.2)) := by
  induction entries generalizing m with
  | nil => rfl
  | cons entry rest ih =>
    have hinsert : (m.insert entry.1 entry.2).mapValues f =
        (m.mapValues f).insert entry.1 (f entry.2) :=
      Keyed.ext (map_insertEntry f entry.1 entry.2 m.entries)
    change ((m.insert entry.1 entry.2).insertAll rest).mapValues f = _
    rw [ih, hinsert]
    rfl

lemma mapValues_ofEntries {γ : Type} (f : β → γ) (entries : List (String × β)) :
    (ofEntries entries).mapValues f = ofEntries (entries.map fun entry => (entry.1, f entry.2)) :=
  mapValues_insertAll f entries empty

end GapAudit.Keyed

namespace GapAudit

lemma mem_distinctSorted {text : String} {texts : List String} :
    text ∈ distinctSorted texts ↔ text ∈ texts := by
  simp [distinctSorted, Keyed.mem_keys_ofEntries]

lemma pairwise_distinctSorted (texts : List String) : (distinctSorted texts).Pairwise (· < ·) :=
  List.pairwise_map.mpr (Keyed.sorted _)

end GapAudit
