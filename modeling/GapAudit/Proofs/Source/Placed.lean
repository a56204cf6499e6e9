import GapAudit.Proofs.Text.Bytes
import GapAudit.Proofs.Text.Identifier
import GapAudit.Source.Statement

/-!
# What trees say about where their nodes stand

The grammar and the parser are not described here. What is relied on is what a parser of a text
without errors promises: nodes stand in the text, those in a node within its range and one behind
the other (`Tree.isPlaced`); an import has its word in it, a declared type has its word before its
name, and no name runs on over the ends of these (`Tree.IsSound`). All of this can be checked for a
given text and its tree.
-/

namespace GapAudit.Source

open Text

/-- Whether no name runs on over a place in a text. -/
def isSeam (source : List Char) (position : Nat) : Bool :=
  !((takeBytes position source).getLast?.any isNameChar &&
    (dropBytes position source).head?.any isNameChar)

lemma apart_of_isSeam {source before rest : List Char} {position : Nat}
    (h : isSeam source position = true) (hsource : source = before ++ rest)
    (hposition : position = byteSize before) : Apart before rest := by
  rw [hposition, hsource, isSeam, takeBytes_append, dropBytes_append, Bool.not_eq_true',
    Bool.and_eq_false_iff] at h
  rintro ⟨hlast, hhead⟩
  rcases h with h | h
  · rw [hlast] at h
    cases h
  · rw [hhead] at h
    cases h

/-- The words that declare types. -/
def declaringWords : List (List Char) :=
  [['i', 'n', 't', 'e', 'r', 'f', 'a', 'c', 'e'], ['t', 'y', 'p', 'e']]

namespace Tree

mutual

/-- Whether a node stands in a text, and the nodes in it within its range and one behind the
other. -/
def isPlaced (source : List Char) : Tree → Bool
  | ⟨_, _, _, start, stop, children⟩ =>
    splitsAt start source && splitsAt stop source && arePlaced source start stop children

/-- Whether nodes stand in a text between two places and one behind the other. -/
def arePlaced (source : List Char) : (start stop : Nat) → List Tree → Bool
  | start, stop, [] => start ≤ stop
  | start, stop, t :: ts => start ≤ t.start && isPlaced source t && arePlaced source t.stop stop ts

end

/-- Whether a statement has the word of an import in it. -/
def hasImportWord (source : List Char) (statement : Tree) : Bool :=
  statement.children.any fun word => word.text source == importWord

/-- Whether a statement has the word of an import in it, and no name runs on over its ends. -/
def isImporting (source : List Char) (statement : Tree) : Bool :=
  statement.hasImportWord source && isSeam source statement.start && isSeam source statement.stop

/-- Whether a declaration has its word before its name, and neither the word nor the name is a part
of a longer one. -/
def isDeclaring (source : List Char) (declaration name : Tree) : Bool :=
  (declaration.children.any fun word =>
    declaringWords.contains (word.text source) && isSeam source word.start &&
      word.stop < name.start) &&
    !(dropBytes name.stop source).head?.any isNameChar

/-- What a parser promises of the tree of any text: its nodes stand in the text, and there are none
below the root if the text is empty. -/
structure StandsIn (source : List Char) (tree : Tree) : Prop where
  placed : isPlaced source tree = true
  bare : source = [] → tree.children = []

instance (source : List Char) (tree : Tree) : Decidable (tree.StandsIn source) :=
  decidable_of_iff (_ ∧ _) ⟨fun ⟨placed, bare⟩ => ⟨placed, bare⟩, fun h => ⟨h.placed, h.bare⟩⟩

/-- What a parser promises of the tree of a text without errors. -/
structure IsSound (source : List Char) (tree : Tree) : Prop where
  placed : isPlaced source tree = true
  imports : ∀ statement ∈ tree.importStatements, isImporting source statement = true
  types : ∀ declaration ∈ tree.preorder, ∀ name ∈ typeName? declaration,
    isDeclaring source declaration name = true

instance (source : List Char) (tree : Tree) : Decidable (tree.IsSound source) :=
  decidable_of_iff (isPlaced source tree = true ∧
      (∀ statement ∈ tree.importStatements, isImporting source statement = true) ∧
      ∀ declaration ∈ tree.preorder, ∀ name ∈ typeName? declaration,
        isDeclaring source declaration name = true)
    ⟨fun ⟨placed, imports, types⟩ => ⟨placed, imports, types⟩,
      fun h => ⟨h.placed, h.imports, h.types⟩⟩

variable {source : List Char} {t child : Tree} {ts : List Tree} {start stop : Nat}

lemma arePlaced_children (h : isPlaced source t = true) :
    arePlaced source t.start t.stop t.children = true := by
  cases t
  rw [isPlaced, Bool.and_eq_true] at h
  exact h.2

lemma splitsAt_of_isPlaced (h : isPlaced source t = true) :
    splitsAt t.start source = true ∧ splitsAt t.stop source = true := by
  cases t
  rw [isPlaced, Bool.and_eq_true, Bool.and_eq_true] at h
  exact h.1

mutual

lemma start_le_stop : (t : Tree) → isPlaced source t = true → t.start ≤ t.stop
  | ⟨_, _, _, _, _, children⟩, h => le_of_arePlaced children (arePlaced_children h)

lemma le_of_arePlaced : (ts : List Tree) → {start stop : Nat} →
    arePlaced source start stop ts = true → start ≤ stop
  | [], _, _, h => by simpa [arePlaced] using h
  | t :: ts, start, stop, h => by
    simp only [arePlaced, Bool.and_eq_true, decide_eq_true_eq] at h
    obtain ⟨⟨hstart, ht⟩, hts⟩ := h
    have hself := start_le_stop t ht
    have hrest := le_of_arePlaced ts hts
    omega

end

lemma arePlaced_of_le {earlier : Nat} (hle : earlier ≤ start)
    (h : arePlaced source start stop ts = true) : arePlaced source earlier stop ts = true := by
  cases ts with
  | nil =>
    simp only [arePlaced, decide_eq_true_eq] at h ⊢
    omega
  | cons t ts =>
    simp only [arePlaced, Bool.and_eq_true, decide_eq_true_eq] at h ⊢
    exact ⟨⟨hle.trans h.1.1, h.1.2⟩, h.2⟩

/-- Nodes stand one behind the other also if some of them are left out. -/
lemma arePlaced_filter (p : Tree → Bool) (h : arePlaced source start stop ts = true) :
    arePlaced source start stop (ts.filter p) = true := by
  induction ts generalizing start with
  | nil => exact h
  | cons t ts ih =>
    simp only [arePlaced, Bool.and_eq_true, decide_eq_true_eq] at h
    obtain ⟨⟨hstart, ht⟩, hts⟩ := h
    rw [List.filter_cons]
    split
    · simp only [arePlaced, Bool.and_eq_true, decide_eq_true_eq]
      exact ⟨⟨hstart, ht⟩, ih hts⟩
    · have hself := start_le_stop t ht
      exact arePlaced_of_le (by omega) (ih hts)

/-- A node among placed ones stands between the same places. -/
lemma placed_of_mem (h : arePlaced source start stop ts = true) (ht : t ∈ ts) :
    isPlaced source t = true ∧ start ≤ t.start ∧ t.stop ≤ stop := by
  induction ts generalizing start with
  | nil => cases ht
  | cons first ts ih =>
    simp only [arePlaced, Bool.and_eq_true, decide_eq_true_eq] at h
    obtain ⟨⟨hstart, hfirst⟩, hts⟩ := h
    rcases List.mem_cons.mp ht with rfl | ht
    · exact ⟨hfirst, hstart, le_of_arePlaced ts hts⟩
    · obtain ⟨hplaced, hle, hstop⟩ := ih hts ht
      have hself := start_le_stop first hfirst
      exact ⟨hplaced, by omega, hstop⟩

lemma mem_children_of_typeName? {name : Tree} (h : t.typeName? = some name) :
    name ∈ t.children := by
  rw [typeName?] at h
  split at h
  · exact List.mem_of_find?_eq_some h
  · cases h

mutual

/-- All nodes of a placed tree are placed. -/
lemma placed_of_mem_preorder : (tree : Tree) → isPlaced source tree = true →
    ∀ t ∈ tree.preorder, isPlaced source t = true
  | tree@⟨_, _, _, _, _, children⟩, h => by
    rw [preorder, List.forall_mem_cons]
    exact ⟨h, placed_of_mem_allPreorder children (arePlaced_children h)⟩

lemma placed_of_mem_allPreorder : (ts : List Tree) → {start stop : Nat} →
    arePlaced source start stop ts = true → ∀ t ∈ allPreorder ts, isPlaced source t = true
  | [], _, _, _ => by simp [allPreorder]
  | first :: ts, start, stop, h => by
    simp only [arePlaced, Bool.and_eq_true] at h
    rw [allPreorder, List.forall_mem_append]
    exact ⟨placed_of_mem_preorder first h.1.2, placed_of_mem_allPreorder ts h.2⟩

end

lemma text_append {before middle after : List Char} (hstart : t.start = byteSize before)
    (hstop : t.stop = byteSize (before ++ middle)) :
    t.text (before ++ (middle ++ after)) = middle := by
  have hsplit : splitsAt t.start (before ++ (middle ++ after)) = true := by
    rw [hstart]
    exact splitsAt_append before _
  have hsplit' : splitsAt t.stop (before ++ (middle ++ after)) = true := by
    rw [hstop, ← List.append_assoc]
    exact splitsAt_append _ after
  rw [text, hsplit, hsplit', Bool.and_self, if_pos rfl, hstop, hstart, byteSize_append,
    Nat.add_sub_cancel_left, dropBytes_append, takeBytes_append]

/-- The text of a placed node is the stretch of the whole text between its ends. -/
lemma exists_text (h : isPlaced source t = true) :
    ∃ before after, source = before ++ (t.text source ++ after) ∧ t.start = byteSize before ∧
      t.stop = byteSize (before ++ t.text source) := by
  obtain ⟨hstart, hstop⟩ := splitsAt_of_isPlaced h
  obtain ⟨before, middle, after, rfl, hbefore, hmiddle⟩ :=
    exists_stretch hstart hstop (start_le_stop t h)
  rw [text_append hbefore.symm hmiddle.symm]
  exact ⟨before, after, rfl, hbefore.symm, hmiddle.symm⟩

/-- A node with some text in it reaches beyond its start. -/
lemma start_lt_stop_of_mem (h : isPlaced source t = true) (hmem : child ∈ t.children)
    (hne : child.text source ≠ []) : t.start < t.stop := by
  obtain ⟨hchild, hle, hle'⟩ := placed_of_mem (arePlaced_children h) hmem
  obtain ⟨_, _, _, hstart, hstop⟩ := exists_text hchild
  have hpos := byteSize_pos hne
  rw [byteSize_append] at hstop
  omega

end Tree

end GapAudit.Source
