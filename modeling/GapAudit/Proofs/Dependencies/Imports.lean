import GapAudit.Dependencies.Analysis
import GapAudit.Proofs.Keyed
import GapAudit.Proofs.Modules.Specifiers
import GapAudit.Proofs.Source.Body

/-!
# Imports in the report on dependencies

The packages that a project imports are searched for without parsing. An import is found if it is
plain: no comment runs into it, and what is left of it without comments is the word, a clause and
the specifier in quotes. So a package that is imported in a plain way reaches the report
(`Dependencies.reaches_report_or_not_plain`).
-/

namespace GapAudit

open Source Text

/-- The stretch of a text that an import occupies. The statement is not the end of a longer name. -/
structure Source.ImportSite (src : List Char) (found : Import) where
  before : List Char
  statement : List Char
  after : List Char
  text_eq : src = before ++ (statement ++ after)
  start_eq : found.start = byteSize before
  stop_eq : found.stop = byteSize before + byteSize statement
  apart : Apart before (statement ++ after)

namespace Modules

variable {src : List Char} {found : Import}

/-- An import that a search without parsing can make out. -/
structure IsPlainImport (site : ImportSite src found) : Prop where
  before_closes : ClosesComments site.before (site.statement ++ site.after)
  /-- Behind a comment, the import is not joined to what stands before the comment. -/
  before_apart : site.before.getLast? = some '/' →
    (stripComments site.before).getLast?.any isWordChar = false
  before_opens_none : ¬OpensSpecifier (stripComments site.before)
  spelled : ∃ body quote rest clause, site.statement = importWord ++ (body ++ quote :: rest) ∧
    isQuote quote = true ∧ IsClause clause ∧
    ClosesComments (body ++ [quote]) (rest ++ site.after) ∧
    stripComments (body ++ [quote]) = clause ++ quote :: (found.source.toList ++ [quote])

variable {site : ImportSite src found}

lemma IsPlainImport.apart (hplain : IsPlainImport site) :
    (stripComments site.before).getLast?.any isWordChar = false := by
  by_cases hslash : site.before.getLast? = some '/'
  · exact hplain.before_apart hslash
  · obtain ⟨body, quote, rest, clause, hstatement, -⟩ := hplain.spelled
    have hhead : (site.statement ++ site.after).head?.any isNameChar = true := by
      rw [hstatement]
      rfl
    have hapart : site.before.getLast?.any isNameChar = false :=
      Bool.eq_false_iff.mpr fun hlast => site.apart ⟨hlast, hhead⟩
    rw [getLast?_stripComments hplain.before_closes hslash]
    exact any_eq_false_of_imp hapart fun _ => isNameChar_of_isWordChar

lemma stripComments_importWord (s : List Char) :
    stripComments (importWord ++ s) = importWord ++ stripComments s := by
  have hclosed : ClosesComments importWord s := .of_no_slash (by decide) (by decide)
  have hbefore : dropLineComments false importWord.getLast? (dropBlockComments false s) =
      stripComments s :=
    dropLineComments_congr (by decide) _
  rw [stripComments_append_of_last hclosed (by decide), hbefore]
  rfl

/-- Without comments, a text with a plain import is cut at the import. -/
lemma IsPlainImport.stripComments_eq (hplain : IsPlainImport site) :
    ∃ clause quote behind, IsClause clause ∧ isQuote quote = true ∧
      stripComments src = stripComments site.before ++
        (importWord ++ (clause ++ quote :: (found.source.toList ++ quote :: behind))) := by
  obtain ⟨body, quote, rest, clause, hstatement, hquote, hclause, hcloses, hbody⟩ := hplain.spelled
  have hbehind : site.statement ++ site.after =
      importWord ++ ((body ++ [quote]) ++ (rest ++ site.after)) := by
    simp [hstatement]
  have hlast : (body ++ [quote]).getLast? ≠ some '/' := by
    rw [List.getLast?_concat]
    rintro ⟨⟩
    cases hquote
  have hbefore : stripComments src = stripComments site.before ++
      stripComments (importWord ++ ((body ++ [quote]) ++ (rest ++ site.after))) := by
    have hcloses := hplain.before_closes
    rw [hbehind] at hcloses
    calc stripComments src
      _ = stripComments (site.before ++ (site.statement ++ site.after)) := by rw [← site.text_eq]
      _ = stripComments
          (site.before ++ (importWord ++ ((body ++ [quote]) ++ (rest ++ site.after)))) := by
        rw [hbehind]
      _ = _ := stripComments_append_of_head hcloses (by decide) (by decide)
  refine ⟨clause, quote, dropLineComments false (body ++ [quote]).getLast?
    (dropBlockComments false (rest ++ site.after)), hclause, hquote, ?_⟩
  rw [hbefore, stripComments_importWord, stripComments_append_of_last hcloses hlast, hbody]
  simp

/-- The specifier of a plain import is found. -/
lemma IsPlainImport.mem_specifiers (hplain : IsPlainImport site) (hne : found.source ≠ "")
    (hchars : ∀ c ∈ found.source.toList, isInnerChar c = true) :
    found.source ∈ specifiers src := by
  obtain ⟨clause, quote, behind, hclause, hquote, heq⟩ := hplain.stripComments_eq
  have hfound : String.ofList found.source.toList ∈
      scan staticSpecifier? (stripComments src) := by
    rw [heq]
    exact mem_scan_staticSpecifier? hplain.apart hplain.before_opens_none hclause
      hquote hchars (by simpa using hne)
  rw [String.ofList_toList] at hfound
  exact List.mem_append_left _ (List.mem_append_left _ hfound)

end Modules

namespace Dependencies

lemma mem_imported {project : Project} {path source specifier package : String}
    (hpath : path ∈ scannedFiles project) (htext : project.text? path = some source)
    (hspecifier : specifier ∈ Modules.specifiers source.toList)
    (hpackage : Modules.packageName? specifier = some package) : package ∈ imported project := by
  have hmem : package ∈ Modules.packages source.toList :=
    mem_distinctSorted.mpr (List.mem_filterMap.mpr ⟨specifier, hspecifier, hpackage⟩)
  exact List.mem_flatMap.mpr ⟨source, List.mem_filterMap.mpr ⟨path, hpath, htext⟩, hmem⟩

lemma importSite_of_cut {source front s body : List Char} {imports : List Import} {found : Import}
    (h : Cut front s imports body) (hsource : source = front ++ s) (hfound : found ∈ imports) :
    Nonempty (ImportSite source found) := by
  induction h with
  | nil => cases hfound
  | @cons front gap statement rest body i more start_eq stop_eq _ place _ _ ih =>
    rcases List.mem_cons.mp hfound with rfl | hfound
    · exact ⟨{
        before := front ++ gap
        statement := statement
        after := rest
        text_eq := by rw [hsource, List.append_assoc]
        start_eq := start_eq
        stop_eq := by rw [stop_eq, byteSize_append (front ++ gap)]
        apart := place }⟩
    · exact ih (by simp [hsource]) hfound

/-- The specifier of an import is found, and in every project that the text is a source of, its
package reaches the report, unless no place of the import is plain. Any parser may have given the
tree of the text, as long as the tree is sound. -/
theorem reaches_report_or_not_plain {tools : Tools} {dialect : Dialect} {source : String}
    {tree : Tree} {found : Import} (hparse : tools.parse dialect source.toList = some tree)
    (hsound : tree.IsSound source.toList)
    (hfound : found ∈ (Facts.read (tools.parse dialect) source.toList).imports)
    (hne : found.source ≠ "") (hdouble : '"' ∉ found.source.toList)
    (hsingle : '\'' ∉ found.source.toList) (hline : '\n' ∉ found.source.toList) :
    (found.source ∈ Modules.specifiers source.toList ∧
      ∀ (project : Project) (path package : String), path ∈ scannedFiles project →
        project.text? path = some source → Modules.packageName? found.source = some package →
        ∀ declared name,
          package ∈ (DependencyReport.ofPackages declared (imported project) name).imported) ∨
    (Nonempty (ImportSite source.toList found) ∧
      ∀ site : ImportSite source.toList found, ¬Modules.IsPlainImport site) := by
  by_cases hplain : ∃ site : ImportSite source.toList found, Modules.IsPlainImport site
  · obtain ⟨site, hplain⟩ := hplain
    have hinner : ∀ c ∈ found.source.toList, Modules.isInnerChar c = true := by
      intro c hc
      simp only [Modules.isInnerChar, Bool.and_eq_true, bne_iff_ne]
      exact ⟨⟨ne_of_mem_of_not_mem hc hdouble, ne_of_mem_of_not_mem hc hsingle⟩,
        ne_of_mem_of_not_mem hc hline⟩
    have hspecifier := hplain.mem_specifiers hne hinner
    refine .inl ⟨hspecifier, ?_⟩
    intro project path package hpath htext hpackage declared name
    have himported : package ∈ imported project := mem_imported hpath htext hspecifier hpackage
    dsimp only [DependencyReport.ofPackages]
    exact mem_distinctSorted.mpr himported
  · rw [Facts.read, hparse] at hfound
    obtain ⟨body, hcut⟩ := hsound.exists_cut
    exact .inr ⟨importSite_of_cut hcut (List.nil_append _).symm hfound, not_exists.mp hplain⟩

/-- An import among comments. -/
def commentedImport : String :=
  "// entry\nimport \x7b\n  z, // schemas\n\x7d from \"zod\";\n"

def commentedImportSite : ImportSite commentedImport.toList ⟨"zod", ["z"], 9, 47⟩ where
  before := "// entry\n".toList
  statement := "import \x7b\n  z, // schemas\n\x7d from \"zod\";".toList
  after := "\n".toList
  text_eq := by decide
  start_eq := by decide
  stop_eq := by decide
  apart := by decide

/-- A project with one source file. -/
def entryProject (source : String) : Project where
  tree := .folder [("p", .folder [("package.json", .file "\x7b\x7d".toUTF8),
    ("src", .folder [("main.ts", .file source.toUTF8)])])]
  root := "/p"
  config := {}

theorem reaches_report_or_not_plain_commented :
    (Reader.read .plain commentedImport.toList).IsSound commentedImport.toList ∧
      Modules.IsPlainImport commentedImportSite ∧
      "zod" ∈ (DependencyReport.ofPackages [] (imported (entryProject commentedImport))
        none).imported := by
  have hsound : (Reader.read .plain commentedImport.toList).IsSound commentedImport.toList := by
    decide +kernel
  have hparse : Tools.builtin.parse .plain commentedImport.toList =
      some (Reader.read .plain commentedImport.toList) := rfl
  have hfound : ⟨"zod", ["z"], 9, 47⟩ ∈ (Facts.ofText .plain commentedImport.toList).imports := by
    decide +kernel
  have hplain : Modules.IsPlainImport commentedImportSite := by
    refine ⟨by decide +kernel, by decide +kernel, ?_,
      " \x7b\n  z, // schemas\n\x7d from \"zod".toList,
      '"', [';'], " \x7b\n  z, \n\x7d from ".toList, by decide +kernel, by decide +kernel,
      ⟨List.all_eq_true.mp (by decide), by decide +kernel⟩, by decide +kernel, by decide +kernel⟩
    exact Modules.not_opensSpecifier_of_newline (by decide +kernel)
  refine ⟨hsound, hplain, ?_⟩
  obtain ⟨-, hreport⟩ | ⟨-, hnone⟩ :=
    reaches_report_or_not_plain hparse hsound hfound (by decide) (by decide) (by decide) (by decide)
  · exact hreport (entryProject commentedImport) "/p/src/main.ts" "zod" (by decide +kernel)
      (by decide +kernel) (by decide +kernel) [] none
  · exact absurd hplain (hnone _)

/-- An import between a pattern with two stars and a comment. -/
def starredImport : String :=
  "const sources = \"src/**\";\nimport \x7b z \x7d from \"zod\";\n/* entry */\n"

/-- The pattern is taken for the beginning of the comment, so the import is not found. -/
theorem starredImport_missed :
    (Reader.read .plain starredImport.toList).IsSound starredImport.toList ∧
      ⟨"zod", ["z"], 26, 50⟩ ∈ (Facts.ofText .plain starredImport.toList).imports ∧
      Modules.specifiers starredImport.toList = [] ∧
      "/p/src/main.ts" ∈ scannedFiles (entryProject starredImport) ∧
      imported (entryProject starredImport) = [] := by
  refine ⟨by decide +kernel, by decide +kernel, by decide +kernel, by decide +kernel,
    by decide +kernel⟩

end Dependencies

end GapAudit
