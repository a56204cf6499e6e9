import Mathlib.Data.List.Find
import GapAudit.Proofs.Source.Placed
import GapAudit.Source.Markup

/-!
# Trees of written texts

How a text is put together of tokens, of running text and of nodes, as the rules of a grammar put it
(`Outline`), and whether a tree follows that from a place on: with the nodes that the rules name, at
the places where their texts are written (`Outline.fits`). What else a parser puts into a tree, such
as the tokens among the nodes or the parts of a quoted text, is left open.
-/

namespace GapAudit.Source

open Text

/-- A text as the rules of a grammar put it together. A part is a name that a rule gives to a node
in it. -/
inductive Outline where
  /-- A token or a blank, which no rule names. -/
  | token (text : List Char)
  /-- Running text, of which a parser may leave out blanks. -/
  | words (text : List Char)
  /-- A node whose inside does not matter. -/
  | leaf (kind : String) (part : Option String) (text : List Char)
  | node (kind : String) (part : Option String) (inside : List Outline)

namespace Outline

mutual

def written : Outline → List Char
  | .token text => text
  | .words text => text
  | .leaf _ _ text => text
  | .node _ _ inside => writtenAll inside

def writtenAll : List Outline → List Char
  | [] => []
  | outline :: more => outline.written ++ writtenAll more

end

end Outline

namespace Tree

/-- The parts of nodes that are looked up by name. -/
def partNames : List String :=
  ["name", "source", "alias"]

/-- Which part of the node around it a node is, as far as parts are looked up by name. -/
def part? (t : Tree) : Option String :=
  t.field.filter partNames.contains

def elementKinds : List String :=
  ["jsx_element", "jsx_self_closing_element"]

/-- Whether neither a node nor any node in it is an element. -/
def isBare (t : Tree) : Bool :=
  t.preorder.all fun inner => !elementKinds.contains inner.kind

def isText (t : Tree) : Bool :=
  t.kind == "jsx_text"

/-- Whether a node is named as a rule has it and stands between two places. -/
def isNode (kind : String) (part : Option String) (start stop : Nat) (t : Tree) : Bool :=
  t.named && t.kind == kind && t.part? == part && t.start == start && t.stop == stop

/-- Whether nodes stand in a text that begins at a place, with nothing but blanks around them. -/
def cover : (position : Nat) → (text : List Char) → List Tree → Bool
  | _, text, [] => text.all isBlank
  | position, text, t :: ts =>
    t.named && t.isBare && position ≤ t.start && t.start ≤ t.stop &&
      splitsAt (t.start - position) text && splitsAt (t.stop - position) text &&
      (takeBytes (t.start - position) text).all isBlank &&
      cover t.stop (dropBytes (t.stop - position) text) ts

end Tree

namespace Outline

mutual

/-- Whether a node follows an outline from a place on. -/
def fits (position : Nat) : Outline → Tree → Bool
  | .token _, _ => false
  | .words _, _ => false
  | .leaf kind part text, t =>
    t.isNode kind part position (position + byteSize text) && t.isBare
  | .node kind part inside, t =>
    t.isNode kind part position (position + byteSize (writtenAll inside)) &&
      (t.children.all fun child => child.named || (child.part?.isNone && child.isBare)) &&
      fitsAll position inside t.namedChildren

/-- Whether nodes follow outlines one behind the other from a place on. -/
def fitsAll (position : Nat) : List Outline → List Tree → Bool
  | [], ts => ts.isEmpty
  | outline :: more, ts =>
    match outline with
    | .token text => fitsAll (position + byteSize text) more ts
    | .words text =>
      Tree.cover position text (ts.takeWhile (·.isText)) &&
        fitsAll (position + byteSize text) more (ts.dropWhile (·.isText))
    | .leaf .. | .node .. =>
      match ts with
      | [] => false
      | t :: ts =>
        fits position outline t && fitsAll (position + byteSize outline.written) more ts

end

lemma writtenAll_append (xs ys : List Outline) :
    writtenAll (xs ++ ys) = writtenAll xs ++ writtenAll ys := by
  induction xs with
  | nil => rfl
  | cons x xs ih => rw [List.cons_append, writtenAll, ih, writtenAll, List.append_assoc]

/-- Whether an outline is that of a single node. -/
def isNode : Outline → Bool
  | .leaf .. | .node .. => true
  | .token _ | .words _ => false

variable {position : Nat} {outline : Outline} {more xs ys : List Outline} {t : Tree} {ts : List Tree}

lemma fitsAll_cons (hnode : outline.isNode = true)
    (h : fitsAll position (outline :: more) ts = true) :
    ∃ first rest, ts = first :: rest ∧ fits position outline first = true ∧
      fitsAll (position + byteSize outline.written) more rest = true := by
  cases outline with
  | token text => cases hnode
  | words text => cases hnode
  | leaf kind part text =>
    cases ts with
    | nil => cases h
    | cons first rest =>
      simp only [fitsAll, Bool.and_eq_true] at h
      exact ⟨first, rest, rfl, h⟩
  | node kind part inside =>
    cases ts with
    | nil => cases h
    | cons first rest =>
      simp only [fitsAll, Bool.and_eq_true] at h
      exact ⟨first, rest, rfl, h⟩

lemma fitsAll_nil (h : fitsAll position [] ts = true) : ts = [] :=
  List.isEmpty_iff.mp h

/-- Nodes that follow several outlines are those that follow the first of them and those that follow
the others. -/
lemma fitsAll_append (h : fitsAll position (xs ++ ys) ts = true) :
    ∃ first rest, ts = first ++ rest ∧ fitsAll position xs first = true ∧
      fitsAll (position + byteSize (writtenAll xs)) ys rest = true := by
  induction xs generalizing position ts with
  | nil => exact ⟨[], ts, rfl, rfl, h⟩
  | cons outline more ih =>
    rw [List.cons_append] at h
    rw [writtenAll, byteSize_append, ← Nat.add_assoc]
    cases outline with
    | token text => exact ih h
    | words text =>
      simp only [fitsAll, Bool.and_eq_true] at h
      obtain ⟨first, rest, hts, hfirst, hrest⟩ := ih h.2
      have htexts : ∀ t ∈ ts.takeWhile (·.isText), t.isText = true := fun t ht =>
        List.mem_takeWhile_imp ht
      have hstop : first.takeWhile (·.isText) = [] ∧ first.dropWhile (·.isText) = first := by
        have hnot := List.head?_dropWhile_not (·.isText) ts
        cases first with
        | nil => exact ⟨rfl, rfl⟩
        | cons t first =>
          rw [hts, List.cons_append, List.head?_cons] at hnot
          simp [hnot]
      refine ⟨ts.takeWhile (·.isText) ++ first, rest, ?_, ?_, hrest⟩
      · rw [List.append_assoc, ← hts, List.takeWhile_append_dropWhile]
      · rw [fitsAll, List.takeWhile_append_of_pos htexts, List.dropWhile_append_of_pos htexts,
          hstop.1, hstop.2, List.append_nil, h.1, hfirst]
        rfl
    | leaf kind part text =>
      obtain ⟨t, behind, rfl, ht, hbehind⟩ := fitsAll_cons rfl h
      obtain ⟨first, rest, rfl, hfirst, hrest⟩ := ih hbehind
      refine ⟨t :: first, rest, rfl, ?_, hrest⟩
      rw [fitsAll, ht, hfirst]
      rfl
    | node kind part inside =>
      obtain ⟨t, behind, rfl, ht, hbehind⟩ := fitsAll_cons rfl h
      obtain ⟨first, rest, rfl, hfirst, hrest⟩ := ih hbehind
      refine ⟨t :: first, rest, rfl, ?_, hrest⟩
      rw [fitsAll, ht, hfirst]
      rfl

end Outline

namespace Tree

variable {kind : String} {part : Option String} {start stop : Nat} {t : Tree}

lemma isNode_iff : t.isNode kind part start stop = true ↔
    t.named = true ∧ t.kind = kind ∧ t.part? = part ∧ t.start = start ∧ t.stop = stop := by
  simp only [isNode, Bool.and_eq_true, beq_iff_eq, and_assoc]

/-- What a node holds besides named nodes is no part to look up, and no element. -/
def HasTokens (t : Tree) : Prop :=
  ∀ child ∈ t.children, child.named = true ∨ (child.part? = none ∧ child.isBare = true)

lemma field_eq_some_iff {name : String} (hname : name ∈ partNames) :
    (t.field == some name) = true ↔ t.part? = some name := by
  rw [part?, beq_iff_eq, Option.filter_eq_some_iff, List.contains_iff_mem, and_iff_left hname]

/-- A part of a node is looked up among its named nodes. -/
lemma child?_eq (h : t.HasTokens) {name : String} (hname : name ∈ partNames) :
    t.child? name = t.namedChildren.find? fun child => child.part? == some name := by
  rw [child?, namedChildren, List.find?_filter]
  apply List.find?_congr
  intro child hchild
  rw [Bool.eq_iff_iff, decide_eq_true_eq, field_eq_some_iff hname, beq_iff_eq]
  constructor
  · intro hpart
    refine ⟨(h child hchild).resolve_right fun hnone => ?_, hpart⟩
    rw [hnone.1] at hpart
    cases hpart
  · exact And.right

end Tree

namespace Outline

/-- Whether a node is what is read of an outline that is written in a text behind a part of it. -/
structure IsRead (source before : List Char) (outline : Outline) (t : Tree) : Prop where
  fits : fits (byteSize before) outline t = true
  written : ∃ after, source = before ++ (outline.written ++ after)

/-- Whether nodes are what is read of outlines that are written in a text behind a part of it. -/
structure AreRead (source before : List Char) (outlines : List Outline) (ts : List Tree) :
    Prop where
  fits : fitsAll (byteSize before) outlines ts = true
  written : ∃ after, source = before ++ (writtenAll outlines ++ after)

variable {source before text : List Char} {kind : String} {part : Option String} {t : Tree}
  {ts : List Tree} {outline : Outline} {inside more xs ys : List Outline}

lemma IsRead.of_leaf (h : IsRead source before (.leaf kind part text) t) :
    t.named = true ∧ t.kind = kind ∧ t.part? = part ∧ t.text source = text ∧ t.isBare = true := by
  have hfits := h.fits
  rw [Outline.fits, Bool.and_eq_true, Tree.isNode_iff] at hfits
  obtain ⟨⟨hnamed, hkind, hpart, hstart, hstop⟩, hbare⟩ := hfits
  obtain ⟨after, hsource⟩ := h.written
  rw [← byteSize_append] at hstop
  refine ⟨hnamed, hkind, hpart, ?_, hbare⟩
  rw [hsource]
  exact Tree.text_append hstart hstop

lemma IsRead.of_node (h : IsRead source before (.node kind part inside) t) :
    t.named = true ∧ t.kind = kind ∧ t.part? = part ∧ t.HasTokens ∧
      AreRead source before inside t.namedChildren := by
  have hfits := h.fits
  simp only [Outline.fits, Bool.and_eq_true, Tree.isNode_iff, List.all_eq_true, Bool.or_eq_true,
    Option.isNone_iff_eq_none] at hfits
  obtain ⟨⟨⟨hnamed, hkind, hpart, -⟩, htokens⟩, hinside⟩ := hfits
  exact ⟨hnamed, hkind, hpart, htokens, hinside, h.written⟩

lemma AreRead.eq_nil (h : AreRead source before [] ts) : ts = [] :=
  fitsAll_nil h.fits

lemma AreRead.behind_token (h : AreRead source before (.token text :: more) ts) :
    AreRead source (before ++ text) more ts := by
  obtain ⟨after, hsource⟩ := h.written
  have hfits := h.fits
  rw [fitsAll, ← byteSize_append] at hfits
  refine ⟨hfits, after, ?_⟩
  rw [hsource, writtenAll, Outline.written, List.append_assoc, List.append_assoc]

lemma AreRead.exists_cons (h : AreRead source before (outline :: more) ts)
    (hnode : outline.isNode = true) :
    ∃ first rest, ts = first :: rest ∧ IsRead source before outline first ∧
      AreRead source (before ++ outline.written) more rest := by
  obtain ⟨first, rest, rfl, hfirst, hrest⟩ := fitsAll_cons hnode h.fits
  obtain ⟨after, hsource⟩ := h.written
  rw [writtenAll, List.append_assoc] at hsource
  rw [← byteSize_append] at hrest
  exact ⟨first, rest, rfl, ⟨hfirst, _, hsource⟩, hrest, after, by rw [hsource, List.append_assoc]⟩

lemma AreRead.exists_words (h : AreRead source before (.words text :: more) ts) :
    ∃ first rest, ts = first ++ rest ∧ (∀ t ∈ first, t.isText = true) ∧
      Tree.cover (byteSize before) text first = true ∧ AreRead source (before ++ text) more rest := by
  obtain ⟨after, hsource⟩ := h.written
  have hfits := h.fits
  rw [fitsAll, Bool.and_eq_true, ← byteSize_append] at hfits
  refine ⟨ts.takeWhile (·.isText), ts.dropWhile (·.isText), List.takeWhile_append_dropWhile.symm,
    fun t ht => List.mem_takeWhile_imp ht, hfits.1, hfits.2, after, ?_⟩
  rw [hsource, writtenAll, Outline.written, List.append_assoc, List.append_assoc]

/-- What is read of several outlines is what is read of the first of them and of the others. -/
lemma AreRead.exists_append (h : AreRead source before (xs ++ ys) ts) :
    ∃ first rest, ts = first ++ rest ∧ AreRead source before xs first ∧
      AreRead source (before ++ writtenAll xs) ys rest := by
  obtain ⟨first, rest, rfl, hfirst, hrest⟩ := fitsAll_append h.fits
  obtain ⟨after, hsource⟩ := h.written
  rw [writtenAll_append, List.append_assoc] at hsource
  rw [← byteSize_append] at hrest
  exact ⟨first, rest, rfl, ⟨hfirst, _, hsource⟩, hrest, after, by rw [hsource, List.append_assoc]⟩

end Outline

end GapAudit.Source
