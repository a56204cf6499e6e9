import Mathlib.Data.Bool.AllAny
import GapAudit.Proofs.Source.Body
import GapAudit.Proofs.Source.ImportText
import GapAudit.Structure.Routes

/-!
# Imports and their ranges

Where the tree that a parser gives follows the rules of import statements, the imports that are
found are just these statements, with their modules and local names, whatever follows them; and
where the nodes of a tree stand in the text and an import has its word in it, the ranges are
stretches of the text between whole characters, one behind the other (`imports_exact`). So both
readers of the ranges, the one that takes out all imports and the one that takes out a single
import, cut the text at places within it. For what is left without the imports it is enough that the
nodes stand in the text (`withoutImports_eq_outside`).
-/

namespace GapAudit

namespace Source

open Text

/-- A number of bytes after which a character of a text ends, or none has begun. -/
def IsBoundary (s : List Char) (position : Nat) : Prop :=
  ∃ before after, s = before ++ after ∧ position = byteSize before

/-- The characters of a text that begin outside all ranges, where `position` bytes came before the
text. -/
def outside (imports : List Import) : (position : Nat) → List Char → List Char
  | _, [] => []
  | position, c :: s =>
    let kept := outside imports (position + c.utf8Size) s
    if imports.any fun i => i.start ≤ position && position < i.stop then kept else c :: kept

/-- The ranges of imports lie in a text, one behind the other. -/
structure InOrder (source : List Char) (imports : List Import) : Prop where
  ne_empty : ∀ i ∈ imports, i.start < i.stop
  within : ∀ i ∈ imports, i.stop ≤ byteSize source
  boundary : ∀ i ∈ imports, IsBoundary source i.start ∧ IsBoundary source i.stop
  apart : imports.Pairwise fun i later => i.stop ≤ later.start

variable {front s body source : List Char} {imports all : List Import}

lemma Spaced.byteSize_le_start (h : Spaced front s imports) :
    ∀ i ∈ imports, byteSize front ≤ i.start := by
  induction h with
  | nil => simp
  | cons start_eq _ _ ih => exact byteSize_le_start_cons start_eq ih

lemma Spaced.inOrder (h : Spaced front s imports) (ne_empty : ∀ i ∈ imports, i.start < i.stop) :
    InOrder (front ++ s) imports := by
  induction h with
  | nil front s => exact ⟨by simp, by simp, by simp, .nil⟩
  | @cons front gap statement rest i more start_eq stop_eq tail ih =>
    have htext : front ++ (gap ++ (statement ++ rest)) = front ++ gap ++ statement ++ rest := by
      simp
    have hmore := ih (List.forall_mem_cons.mp ne_empty).2
    rw [← htext] at hmore
    refine ⟨ne_empty, List.forall_mem_cons.mpr ⟨?_, hmore.within⟩,
      List.forall_mem_cons.mpr ⟨⟨?_, ?_⟩, hmore.boundary⟩,
      List.pairwise_cons.mpr ⟨?_, hmore.apart⟩⟩
    · rw [stop_eq, htext, byteSize_append (front ++ gap ++ statement)]
      omega
    · exact ⟨front ++ gap, statement ++ rest, by simp, start_eq⟩
    · exact ⟨front ++ gap ++ statement, rest, htext, stop_eq⟩
    · intro later hlater
      rw [stop_eq]
      exact tail.byteSize_le_start later hlater

lemma outside_append (imports : List Import) (position : Nat) (a b : List Char) :
    outside imports position (a ++ b) =
      outside imports position a ++ outside imports (position + byteSize a) b := by
  induction a generalizing position with
  | nil => rfl
  | cons c a ih =>
    rw [List.cons_append, outside, outside, ih, byteSize, Nat.add_assoc]
    split <;> rfl

lemma outside_eq_self {position : Nat}
    (h : ∀ i ∈ imports, i.stop ≤ position ∨ position + byteSize s ≤ i.start) :
    outside imports position s = s := by
  induction s generalizing position with
  | nil => rfl
  | cons c s ih =>
    have hpos := c.utf8Size_pos
    have hmore : outside imports (position + c.utf8Size) s = s := by
      refine ih fun i hi => ?_
      have hi := h i hi
      rw [byteSize] at hi
      omega
    have hnone : (imports.any fun i => decide (i.start ≤ position) && decide (position < i.stop)) =
        false := by
      rw [List.any_eq_false]
      intro i hi
      have hi := h i hi
      rw [byteSize] at hi
      simp only [Bool.and_eq_true, decide_eq_true_eq]
      omega
    rw [outside, hnone, hmore, if_neg Bool.false_ne_true]

lemma outside_eq_nil {position : Nat} {i : Import} (hi : i ∈ imports) (hstart : i.start ≤ position)
    (hstop : position + byteSize s ≤ i.stop) : outside imports position s = [] := by
  induction s generalizing position with
  | nil => rfl
  | cons c s ih =>
    have hpos := c.utf8Size_pos
    rw [byteSize] at hstop
    have hsome : (imports.any fun i => decide (i.start ≤ position) && decide (position < i.stop)) =
        true := by
      refine List.any_eq_true.mpr ⟨i, hi, ?_⟩
      simp only [Bool.and_eq_true, decide_eq_true_eq]
      omega
    rw [outside, hsome, if_pos rfl]
    exact ih (by omega) (by omega)

/-- What is left without imports is what stands outside their ranges. -/
lemma Spaced.withoutImportsFrom_eq (h : Spaced front s imports) (hsub : imports ⊆ all)
    (hall : ∀ i ∈ all, i ∈ imports ∨ i.stop ≤ byteSize front) :
    Routes.withoutImportsFrom (byteSize front) s imports = outside all (byteSize front) s := by
  induction h with
  | nil front s =>
    refine (outside_eq_self fun i hi => .inl ?_).symm
    exact (hall i hi).resolve_left (List.not_mem_nil)
  | @cons front gap statement rest i more start_eq stop_eq tail ih =>
    have hi : i ∈ all := hsub List.mem_cons_self
    have hlater := tail.byteSize_le_start
    simp only [byteSize_append] at start_eq stop_eq hlater
    have hgap : outside all (byteSize front) gap = gap := by
      refine outside_eq_self fun other hother => ?_
      rcases hall other hother with hmem | hstop
      · rcases List.mem_cons.mp hmem with rfl | hmem
        · exact .inr start_eq.ge
        · exact .inr (by have := hlater other hmem; omega)
      · exact .inl hstop
    have hstatement : outside all (byteSize front + byteSize gap) statement = [] :=
      outside_eq_nil hi start_eq.le stop_eq.ge
    have hrest := ih (fun _ hother => hsub (List.mem_cons_of_mem i hother)) fun other hother => by
      rcases hall other hother with hmem | hstop
      · rcases List.mem_cons.mp hmem with rfl | hmem
        · right
          rw [stop_eq, byteSize_append, byteSize_append]
        · exact .inl hmem
      · right
        rw [byteSize_append, byteSize_append]
        omega
    have hstart : max (byteSize front) i.start = i.start := by omega
    have hstop : max i.start i.stop = i.stop := by omega
    have htake : i.start - byteSize front = byteSize gap := by omega
    have hdrop : i.stop - byteSize front = byteSize (gap ++ statement) := by
      rw [byteSize_append]
      omega
    rw [byteSize_append, byteSize_append, ← stop_eq] at hrest
    rw [Routes.withoutImportsFrom, outside_append, outside_append, hgap, hstatement, List.nil_append,
      hstart, hstop, htake, hdrop, takeBytes_append, ← List.append_assoc, dropBytes_append, hrest,
      stop_eq]

/-- A single import is cut out of a text between two places in it. -/
lemma exists_withoutRange {i : Import} (h : Spaced front s imports) (hsource : source = front ++ s)
    (hi : i ∈ imports) :
    ∃ before statement after, source = before ++ (statement ++ after) ∧ byteSize before = i.start ∧
      byteSize (before ++ statement) = i.stop ∧
      Components.withoutRange source i.start i.stop = before ++ '\n' :: after := by
  induction h with
  | nil => cases hi
  | @cons front gap statement rest first more start_eq stop_eq _ ih =>
    rcases List.mem_cons.mp hi with rfl | hi
    · have hplace : source = front ++ gap ++ (statement ++ rest) := by
        rw [hsource, List.append_assoc]
      refine ⟨front ++ gap, statement, rest, hplace, start_eq.symm, stop_eq.symm, ?_⟩
      rw [hplace]
      exact withoutRange_append start_eq stop_eq rest
    · exact ih (by simp [hsource]) hi

/-- What is left of a text without its imports is what stands outside their ranges. -/
theorem withoutImports_eq_outside {source : List Char} {tree : Tree}
    (h : Tree.isPlaced source tree = true) :
    Routes.withoutImports source (.ofTree source tree) =
      outside (tree.imports source) 0 source :=
  (Tree.spaced_imports h).withoutImportsFrom_eq (List.Subset.refl _) fun _ => .inl

namespace Tree

/-- Whether a tree follows the rules of imports one on a line, and has no other imports behind
them. -/
structure BeginsWith (forms : List ImportForm) (tree : Tree) : Prop where
  first : Outline.fitsAll 0 (ImportForm.lineOutlines forms)
    (tree.namedChildren.take forms.length) = true
  others : ∀ t ∈ tree.namedChildren.drop forms.length, t.kind ≠ "import_statement"

instance (forms : List ImportForm) (tree : Tree) : Decidable (tree.BeginsWith forms) :=
  decidable_of_iff (_ ∧ _) ⟨fun ⟨first, others⟩ => ⟨first, others⟩, fun h => ⟨h.first, h.others⟩⟩

end Tree

lemma writtenAll_lineOutlines (forms : List ImportForm) :
    Outline.writtenAll (ImportForm.lineOutlines forms) = ImportForm.writtenLines forms := by
  induction forms with
  | nil => rfl
  | cons form forms ih =>
    have hmore : ImportForm.lineOutlines (form :: forms) =
        form.outline :: .token ['\n'] :: ImportForm.lineOutlines forms := rfl
    rw [hmore, Outline.writtenAll, Outline.writtenAll, ih, Outline.written_importOutline]
    simp [ImportForm.writtenLines, Outline.written]

/-- What is read of imports one on a line are statements with their modules and local names. -/
lemma clauses_of_areRead {before : List Char} {forms : List ImportForm} {ts : List Tree}
    (h : Outline.AreRead source before (ImportForm.lineOutlines forms) ts) :
    (∀ t ∈ ts, t.kind = "import_statement") ∧
      (ts.filterMap (Tree.import? source)).map Import.clause = forms.map ImportForm.meaning := by
  induction forms generalizing before ts with
  | nil =>
    rw [h.eq_nil]
    exact ⟨by simp, rfl⟩
  | cons form forms ih =>
    obtain ⟨first, rest, rfl, hfirst, hrest⟩ := h.exists_cons rfl
    obtain ⟨-, hkind, hclause⟩ := ImportForm.exists_import hfirst
    obtain ⟨i, hfound, hi⟩ := Option.map_eq_some_iff.mp hclause
    obtain ⟨hkinds, hmore⟩ := ih hrest.behind_token
    refine ⟨List.forall_mem_cons.mpr ⟨hkind, hkinds⟩, ?_⟩
    rw [List.filterMap_cons_some hfound, List.map_cons, hi, hmore, List.map_cons]

/-- The imports that a tree begins with are all that are found in it. -/
lemma clauses_of_beginsWith {forms : List ImportForm} {tree : Tree} (h : tree.BeginsWith forms)
    (rest : List Char) :
    (tree.imports (ImportForm.writtenLines forms ++ rest)).map Import.clause =
      forms.map ImportForm.meaning := by
  have hwritten : ImportForm.writtenLines forms ++ rest =
      [] ++ (Outline.writtenAll (ImportForm.lineOutlines forms) ++ rest) := by
    rw [writtenAll_lineOutlines, List.nil_append]
  generalize ImportForm.writtenLines forms ++ rest = source at hwritten ⊢
  have hread : Outline.AreRead source [] (ImportForm.lineOutlines forms)
      (tree.namedChildren.take forms.length) := ⟨h.first, rest, hwritten⟩
  obtain ⟨hkinds, hclauses⟩ := clauses_of_areRead hread
  have hfirst : (tree.namedChildren.take forms.length).filter
      (fun t => t.kind == "import_statement") = tree.namedChildren.take forms.length :=
    List.filter_eq_self.mpr fun t ht => beq_iff_eq.mpr (hkinds t ht)
  have hothers : (tree.namedChildren.drop forms.length).filter
      (fun t => t.kind == "import_statement") = [] :=
    List.filter_eq_nil_iff.mpr fun t ht heq => h.others t ht (beq_iff_eq.mp heq)
  have hstatements : tree.importStatements = tree.namedChildren.take forms.length := by
    rw [Tree.importStatements, ← List.take_append_drop forms.length tree.namedChildren,
      List.filter_append, hothers, List.append_nil]
    simpa using hfirst
  rw [Tree.imports, hstatements, hclauses]

/-- The imports that a file begins with, each on a line, are found in their order with their modules
and local names, if the tree that a parser gives follows the rules of these statements. Wherever the
nodes of a tree stand in the text and its imports have their word in them, the ranges of the imports
lie in the text one behind the other; what is left without them is what stands outside; and a single
one is cut out between two places in the text. -/
theorem imports_exact (tools : Tools) (dialect : Dialect) :
    (∀ (forms : List ImportForm) (rest : List Char) (tree : Tree),
      let source := ImportForm.writtenLines forms ++ rest
      tools.parse dialect source = some tree → tree.BeginsWith forms →
        (Facts.read (tools.parse dialect) source).imports.map Import.clause =
          forms.map ImportForm.meaning) ∧
    ∀ (source : List Char) (tree : Tree), tools.parse dialect source = some tree →
      tree.isPlaced source →
      (∀ statement ∈ tree.importStatements, statement.hasImportWord source) →
      let facts := Facts.read (tools.parse dialect) source
      InOrder source facts.imports ∧
      Routes.withoutImports source facts = outside facts.imports 0 source ∧
      ∀ i ∈ facts.imports, ∃ before statement after,
        source = before ++ (statement ++ after) ∧ byteSize before = i.start ∧
        byteSize (before ++ statement) = i.stop ∧
        Components.withoutRange source i.start i.stop = before ++ '\n' :: after := by
  constructor
  · intro forms rest tree source hparse hbegins
    rw [Facts.read, hparse]
    exact clauses_of_beginsWith hbegins rest
  · intro source tree hparse hplaced hwords
    have hfacts : Facts.read (tools.parse dialect) source = .ofTree source tree := by
      rw [Facts.read, hparse]
      rfl
    have hspaced := Tree.spaced_imports hplaced
    have hempty := Tree.start_lt_stop_of_mem_imports hplaced hwords
    rw [hfacts]
    exact ⟨hspaced.inOrder hempty, withoutImports_eq_outside hplaced, fun i hi =>
      exists_withoutRange hspaced (List.nil_append source).symm hi⟩

/-- A default with some names, one of them under another name, and a module under one name. -/
def mixedForms : List ImportForm :=
  [{ default? := some ⟨"React".toList, by decide, List.all_eq_true.mp (by decide +kernel)⟩
     bindings? := some <| .named
       [(⟨"useId".toList, by decide, List.all_eq_true.mp (by decide +kernel)⟩, none),
        (⟨"memo".toList, by decide, List.all_eq_true.mp (by decide +kernel)⟩,
          some ⟨"m".toList, by decide, List.all_eq_true.mp (by decide +kernel)⟩)]
     origin := ⟨'"', "react".toList, .inl rfl, List.all_iff_forall_prop.mp (by decide), by decide⟩ },
   { default? := none
     bindings? := some <| .whole ⟨"path".toList, by decide, List.all_eq_true.mp (by decide +kernel)⟩
     origin := ⟨'\'', "node:path".toList, .inr rfl, List.all_iff_forall_prop.mp (by decide),
       by decide⟩ },
   { default? := none
     bindings? := none
     origin := ⟨'"', "./a.css".toList, .inl rfl, List.all_iff_forall_prop.mp (by decide), by decide⟩ }]

/-- An import behind a comment with a character of two bytes, and without a semicolon. -/
def lateImport : List Char :=
  "// §\nimport a from 'b'\nlet c = a".toList

theorem imports_exact_mixed :
    let whole := "import React, \x7b useId, memo as m \x7d from \"react\";\n".toList ++
      "import * as path from 'node:path';\nimport \"./a.css\";\n".toList ++
      "export const naïve = '§';\n".toList
    (Reader.read .markup whole).BeginsWith mixedForms ∧
      (Facts.ofText .markup whole).imports.map Import.clause =
        [⟨"react", ["React", "useId", "m"]⟩, ⟨"node:path", ["path"]⟩, ⟨"./a.css", []⟩] ∧
      (Reader.read .markup lateImport).isPlaced lateImport ∧
      (∀ statement ∈ (Reader.read .markup lateImport).importStatements,
        statement.hasImportWord lateImport) ∧
      (Facts.ofText .markup lateImport).imports = [⟨"b", ["a"], 6, 23⟩] ∧
      InOrder lateImport [⟨"b", ["a"], 6, 23⟩] ∧
      Routes.withoutImports lateImport (Facts.ofText .markup lateImport) =
        "// §\n\nlet c = a".toList ∧
      ∃ before statement after, lateImport = before ++ (statement ++ after) ∧
        byteSize before = 6 ∧ byteSize (before ++ statement) = 23 ∧
        Components.withoutRange lateImport 6 23 = before ++ '\n' :: after := by
  intro whole
  obtain ⟨hwritten, hranges⟩ := imports_exact .builtin .markup
  have hwhole : whole =
      ImportForm.writtenLines mixedForms ++ "export const naïve = '§';\n".toList := by
    decide +kernel
  have hbegins : (Reader.read .markup whole).BeginsWith mixedForms := by decide +kernel
  have hplaced : (Reader.read .markup lateImport).isPlaced lateImport := by decide +kernel
  have hwords : ∀ statement ∈ (Reader.read .markup lateImport).importStatements,
      statement.hasImportWord lateImport := by
    decide +kernel
  have himports : (Facts.read (Tools.builtin.parse .markup) lateImport).imports =
      [⟨"b", ["a"], 6, 23⟩] := by
    decide +kernel
  have hclauses := hwritten mixedForms "export const naïve = '§';\n".toList
    (Reader.read .markup whole) (by rw [← hwhole]; rfl) hbegins
  rw [← hwhole] at hclauses
  obtain ⟨horder, houtside, hsingle⟩ := hranges lateImport _ rfl hplaced hwords
  rw [himports] at horder houtside hsingle
  exact ⟨hbegins, hclauses.trans (by decide +kernel), hplaced, hwords, himports, horder,
    houtside.trans (by decide +kernel), hsingle _ List.mem_cons_self⟩

end Source

end GapAudit
