/-!
Values under texts. The keys are distinct and stand in increasing order, so that two collections
with the same content are equal. Main statements: a key looked up after an insertion is found with
the inserted value (`find?_insert_self`), and every other key keeps its value
(`find?_insert_of_ne`).
-/

namespace GapAudit

/-- Values under distinct keys in increasing order of the keys. -/
@[ext]
structure Keyed (β : Type) where
  entries : List (String × β)
  sorted : entries.Pairwise fun a b => a.1 < b.1

namespace Keyed

variable {β : Type}

def insertEntry (key : String) (value : β) : List (String × β) → List (String × β)
  | [] => [(key, value)]
  | entry :: rest =>
    if key < entry.1 then (key, value) :: entry :: rest
    else if entry.1 < key then entry :: insertEntry key value rest
    else (key, value) :: rest

def lookupIn? (key : String) : List (String × β) → Option β
  | [] => none
  | entry :: rest => if entry.1 == key then some entry.2 else lookupIn? key rest

theorem eq_of_not_lt {a b : String} (h : ¬a < b) (h' : ¬b < a) : a = b :=
  String.le_antisymm h' h

theorem mem_insertEntry {key : String} {value : β} {entries : List (String × β)}
    {e : String × β} (h : e ∈ insertEntry key value entries) : e = (key, value) ∨ e ∈ entries := by
  induction entries with
  | nil => simpa [insertEntry] using h
  | cons entry rest ih =>
    rw [insertEntry] at h
    split at h
    · simpa using h
    · split at h
      · rcases List.mem_cons.1 h with h | h
        · exact Or.inr (h ▸ List.mem_cons_self)
        · exact (ih h).imp id (List.mem_cons_of_mem _)
      · exact (List.mem_cons.1 h).imp id (List.mem_cons_of_mem _)

theorem sorted_insertEntry {key : String} {value : β} {entries : List (String × β)}
    (h : entries.Pairwise fun a b => a.1 < b.1) :
    (insertEntry key value entries).Pairwise fun a b => a.1 < b.1 := by
  induction entries with
  | nil => simp [insertEntry]
  | cons entry rest ih =>
    obtain ⟨head, tail⟩ := List.pairwise_cons.1 h
    rw [insertEntry]
    split
    next before =>
      refine List.pairwise_cons.2 ⟨fun e he => ?_, h⟩
      rcases List.mem_cons.1 he with he | he
      · exact he ▸ before
      · exact String.lt_trans before (head e he)
    next notBefore =>
      split
      next behind =>
        refine List.pairwise_cons.2 ⟨fun e he => ?_, ih tail⟩
        rcases mem_insertEntry he with he | he
        · exact he ▸ behind
        · exact head e he
      next notBehind =>
        refine List.pairwise_cons.2 ⟨fun e he => ?_, tail⟩
        rw [eq_of_not_lt notBefore notBehind]
        exact head e he

def empty : Keyed β :=
  ⟨[], List.Pairwise.nil⟩

def insert (m : Keyed β) (key : String) (value : β) : Keyed β :=
  ⟨insertEntry key value m.entries, sorted_insertEntry m.sorted⟩

def find? (m : Keyed β) (key : String) : Option β :=
  lookupIn? key m.entries

/-- The collection of a list of entries; of two entries under one key the later counts. -/
def ofEntries (entries : List (String × β)) : Keyed β :=
  entries.foldl (fun m entry => m.insert entry.1 entry.2) empty

def keys (m : Keyed β) : List String :=
  m.entries.map (·.1)

theorem find?_insert_self (m : Keyed β) (key : String) (value : β) :
    (m.insert key value).find? key = some value := by
  show lookupIn? key (insertEntry key value m.entries) = some value
  induction m.entries with
  | nil => simp [insertEntry, lookupIn?]
  | cons entry rest ih =>
    rw [insertEntry]
    split
    · simp [lookupIn?]
    · split
      next behind =>
        have distinct : entry.1 ≠ key := fun h => String.lt_irrefl _ (h ▸ behind)
        simpa [lookupIn?, distinct] using ih
      · simp [lookupIn?]

theorem find?_insert_of_ne (m : Keyed β) {key other : String} (value : β) (h : other ≠ key) :
    (m.insert key value).find? other = m.find? other := by
  show lookupIn? other (insertEntry key value m.entries) = lookupIn? other m.entries
  have h' : key ≠ other := h.symm
  induction m.entries with
  | nil => simp [insertEntry, lookupIn?, h']
  | cons entry rest ih =>
    rw [insertEntry]
    split
    · simp [lookupIn?, h']
    next notBefore =>
      split
      · simp only [lookupIn?, ih]
      next notBehind =>
        have same : key = entry.1 := eq_of_not_lt notBefore notBehind
        simp [lookupIn?, h', ← same]

end Keyed

def distinctSorted (texts : List String) : List String :=
  (Keyed.ofEntries (texts.map fun text => (text, ()))).keys

end GapAudit
