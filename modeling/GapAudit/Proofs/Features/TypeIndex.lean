import GapAudit.Features.Analysis
import GapAudit.Proofs.Source.Placed
import GapAudit.Proofs.Text.Scan
import GapAudit.Proofs.Text.Word

/-!
# Declared types in the index of a project

The index of the types of a project is made by a search for declaring words, without parsing. A
declared type is found if some place that declares it is plain: only blanks stand between the word
and the name, the name consists of characters of words, and no other declaring word stands right
before (`ArtifactIndex.contains_or_no_plain_site`).
-/

namespace GapAudit

open Text Source

/-- A place in a text where a type is declared: its word and, behind something else, its name.
Neither is a part of a longer name. -/
structure Source.TypeSite (src name : List Char) where
  before : List Char
  word : List Char
  gap : List Char
  after : List Char
  text_eq : src = before ++ (word ++ (gap ++ (name ++ after)))
  word_mem : word ∈ declaringWords
  before_apart : before.getLast?.any isNameChar = false
  gap_ne_nil : gap ≠ []
  after_apart : after.head?.any isNameChar = false

namespace Source.TypeSite

variable {src name : List Char}

/-- A place that a search without parsing can make out. -/
structure IsPlain (site : TypeSite src name) : Prop where
  gap_blank : ∀ c ∈ site.gap, isBlank c = true
  name_start : name.head?.any startsName = true
  name_chars : ∀ c ∈ name, isPlainNameChar c = true
  /-- No declaring word stands before the place with only blanks between, since it would take the
  word of the place for its name. -/
  apart : ∀ front blanks, ∀ word ∈ declaringWords, site.before = front ++ (word ++ blanks) →
    blanks ≠ [] → (∀ c ∈ blanks, isBlank c = true) → front.getLast?.any isWordChar = true

end Source.TypeSite

namespace ArtifactIndex

lemma isNameChar_of_mem_declaringWords {word : List Char} (hword : word ∈ declaringWords) :
    ∀ c ∈ word, isNameChar c = true := by
  have hall : (declaringWords.all fun word => word.all isNameChar) = true := by decide
  exact List.all_eq_true.mp (List.all_eq_true.mp hall word hword)

lemma afterAny?_declaringWords {word s : List Char} (hword : word ∈ declaringWords) :
    afterAny? ["interface".toList, "type".toList] (word ++ s) = some s := by
  simp only [declaringWords, List.mem_cons, List.not_mem_nil, or_false] at hword
  rcases hword with rfl | rfl
  · simp [afterAny?, after?]
  · simp [afterAny?, after?]

lemma typeNameAt?_eq_some {before : Option Char} {s name rest : List Char}
    (h : typeNameAt? before s = some (name, rest)) :
    before.any isWordChar = false ∧ ∃ word ∈ declaringWords, ∃ blanks, blanks ≠ [] ∧
      (∀ c ∈ blanks, isBlank c = true) ∧ (∀ c ∈ name, isPlainNameChar c = true) ∧
      s = word ++ (blanks ++ (name ++ rest)) := by
  simp only [typeNameAt?, bind, Option.bind_eq_some_iff] at h
  obtain ⟨behindWord, hword, behindBlanks, hblanks, hname⟩ := h
  obtain ⟨hbefore, word, hmem, rfl⟩ := wordAfter?_eq_some hword
  obtain ⟨blanks, hne, hall, rfl⟩ := afterBlanks?_eq_some hblanks
  obtain ⟨rfl, hchars⟩ := nameAt?_eq_some hname
  exact ⟨hbefore, word, hmem, blanks, hne, hall, hchars, rfl⟩

section

variable {src name : List Char} {site : TypeSite src name}

/-- A search finds the name of a plain place when it tries the place. -/
lemma typeNameAt?_site (hplain : site.IsPlain) :
    typeNameAt? site.before.getLast? (site.word ++ (site.gap ++ (name ++ site.after))) =
      some (name, site.after) := by
  have hplainRest := any_eq_false_of_imp site.after_apart fun _ => isNameChar_of_isPlainNameChar
  have hbefore := any_eq_false_of_imp site.before_apart fun _ => isNameChar_of_isWordChar
  have hnotBlank := head?_name_not_isBlank hplain.name_start hplain.name_chars site.after
  rw [typeNameAt?, wordAfter?_append hbefore (afterAny?_declaringWords site.word_mem)]
  change (afterBlanks? (site.gap ++ (name ++ site.after))).bind nameAt? = _
  rw [afterBlanks?_append site.gap_ne_nil hplain.gap_blank hnotBlank]
  exact nameAt?_append hplain.name_start hplain.name_chars hplainRest

/-- No match that begins before a plain place reaches beyond its beginning. -/
lemma not_overlaps_site (hplain : site.IsPlain) (other : List Char) :
    ¬Overlaps typeNameAt? none site.before
      (site.word ++ (site.gap ++ (name ++ site.after))) other := by
  rintro ⟨front, back, rest, hsplit, hback, hfind, hrest⟩
  obtain ⟨hfront, word, hword, blanks, hblanks, hall, hother, heq⟩ := typeNameAt?_eq_some hfind
  have hlast : back.getLast?.any isNameChar = false := by
    rw [← List.getLast?_append_of_ne_nil front hback, ← hsplit]
    exact site.before_apart
  obtain ⟨middle, hmiddle, hmiddleLast, rfl, hbehindWord⟩ :=
    exists_append_of_last heq hback hlast (isNameChar_of_mem_declaringWords hword)
  rw [← hmiddleLast] at hlast
  -- What lies between the earlier word and the place is blank.
  have hmiddleBlank : ∀ c ∈ middle, isBlank c = true := by
    rcases List.append_eq_append_iff.mp hbehindWord with ⟨name', rfl, hname'⟩ | ⟨more, rfl, -⟩
    · by_cases hempty : name' = []
      · rw [hempty, List.append_nil]
        exact hall
      · rw [List.getLast?_append_of_ne_nil blanks hempty] at hlast
        obtain ⟨beyond, -, -, -, rfl⟩ := exists_append_of_last hname'.symm hempty hlast
          fun c hc => isNameChar_of_isPlainNameChar (hother c hc)
        rw [List.length_append] at hrest
        omega
    · exact fun c hc => hall c (List.mem_append_left more hc)
  have hjoined := hplain.apart front middle word hword hsplit hmiddle hmiddleBlank
  rw [Option.or_none, hjoined] at hfront
  cases hfront

/-- The name of a plain place is among those found in the text. -/
lemma mem_typeNamesIn {source : String} {name : String}
    {site : TypeSite source.toList name.toList} (hplain : site.IsPlain) :
    lowercase name ∈ typeNamesIn source := by
  have hne : site.word ++ (site.gap ++ (name.toList ++ site.after)) ≠ [] := by
    simp [site.gap_ne_nil]
  have hfound : name.toList ∈ scan typeNameAt? source.toList := by
    rw [site.text_eq]
    obtain hmem | ⟨other, -, hover⟩ := mem_scan_or_overlaps (typeNameAt?_site hplain) hne
    · exact hmem
    · exact absurd hover (not_overlaps_site hplain other)
  exact List.mem_map.mpr ⟨name.toList, hfound, rfl⟩

end

lemma any_isNameChar_head? {word : List Char} (hword : word ∈ declaringWords) (s : List Char) :
    (word ++ s).head?.any isNameChar = true := by
  simp only [declaringWords, List.mem_cons, List.not_mem_nil, or_false] at hword
  rcases hword with rfl | rfl
  · rfl
  · rfl

/-- The type that a declaration in a sound tree declares has a place in the text. -/
lemma exists_typeSite {source : List Char} {tree declaration name : Tree}
    (hsound : tree.IsSound source) (hmem : declaration ∈ tree.preorder)
    (hname : declaration.typeName? = some name) :
    ∃ site : TypeSite source (name.text source),
      byteSize (site.before ++ site.word ++ site.gap) = name.start := by
  have hdeclaring := hsound.types declaration hmem name hname
  simp only [Tree.isDeclaring, Bool.and_eq_true, List.any_eq_true, List.contains_iff_mem,
    decide_eq_true_eq, Bool.not_eq_true'] at hdeclaring
  obtain ⟨⟨word, hwordMem, ⟨hword, hseam⟩, hlt⟩, hafter⟩ := hdeclaring
  have hchildren := Tree.arePlaced_children
    (Tree.placed_of_mem_preorder tree hsound.placed declaration hmem)
  obtain ⟨hwordPlaced, -, -⟩ := Tree.placed_of_mem hchildren hwordMem
  obtain ⟨hnamePlaced, -, -⟩ := Tree.placed_of_mem hchildren (Tree.mem_children_of_typeName? hname)
  obtain ⟨before, rest, heq, hstart, hstop⟩ := Tree.exists_text hwordPlaced
  obtain ⟨front, after, heq', hstart', hstop'⟩ := Tree.exists_text hnamePlaced
  rw [hstop, hstart'] at hlt
  have hsplit : (before ++ word.text source) ++ rest = front ++ (name.text source ++ after) := by
    rw [List.append_assoc, ← heq]
    exact heq'
  obtain ⟨gap, rfl, rfl⟩ := exists_append_of_byteSize_le hsplit hlt.le
  have hapart : Apart before (word.text source ++ (gap ++ (name.text source ++ after))) :=
    apart_of_isSeam hseam heq hstart
  have hwhole := heq'
  rw [← List.append_assoc] at hwhole
  rw [dropBytes_eq hwhole hstop'] at hafter
  exact ⟨{
    before := before
    word := word.text source
    gap := gap
    after := after
    text_eq := heq
    word_mem := hword
    before_apart := Bool.eq_false_iff.mpr fun hlast =>
      hapart ⟨hlast, any_isNameChar_head? hword _⟩
    gap_ne_nil := by
      rintro rfl
      rw [List.append_nil] at hlt
      exact Nat.lt_irrefl _ hlt
    after_apart := hafter }, hstart'.symm⟩

/-- A type that a source file of a project declares is in the index, and no feature misses it,
unless no place that declares it is plain. The tree that the parser gives for the file is sound. -/
theorem contains_or_no_plain_site {project : Project} {path source name : String} {tree : Tree}
    (hpath : path ∈ project.walk project.config.layout.sourceRoot Walk.sources)
    (htext : project.text? path = some source)
    (hparse : project.tools.parse (.ofPath path) source.toList = some tree)
    (hsound : tree.IsSound source.toList)
    (hname : name ∈ (project.facts path source.toList).types) :
    ((ofProject project).contains .type name = true ∧
      ∀ feature, ∀ kind ∈ (FeatureStatus.ofFeature feature (ofProject project)).missing,
        kind.1 = .type → name ∉ kind.2) ∨
    ((∃ declaration ∈ tree.preorder, ∃ place, declaration.typeName? = some place ∧
        ∃ site : TypeSite source.toList name.toList,
          byteSize (site.before ++ site.word ++ site.gap) = place.start) ∧
      ∀ site : TypeSite source.toList name.toList, ¬site.IsPlain) := by
  by_cases hplain : ∃ site : TypeSite source.toList name.toList, site.IsPlain
  · obtain ⟨site, hplain⟩ := hplain
    have hmem : lowercase name ∈ (ofProject project).typeNames := by
      simp only [ofProject, List.mem_flatMap, List.mem_filterMap]
      exact ⟨source, ⟨path, hpath, htext⟩, mem_typeNamesIn hplain⟩
    have hcontains : (ofProject project).contains .type name = true :=
      List.contains_iff_mem.mpr hmem
    refine .inl ⟨hcontains, ?_⟩
    rintro feature ⟨kind, names⟩ hmissing rfl hmissed
    obtain ⟨_, -, heq⟩ := List.mem_map.mp (List.mem_of_mem_filter hmissing)
    cases heq
    have habsent := (List.mem_filter.mp hmissed).2
    rw [hcontains] at habsent
    cases habsent
  · refine .inr ⟨?_, not_exists.mp hplain⟩
    have hread : project.facts path source.toList = .ofTree source.toList tree := by
      rw [Project.facts, Facts.read, hparse]
      rfl
    rw [hread] at hname
    obtain ⟨place, hplace, rfl⟩ := List.mem_map.mp (List.mem_of_mem_filter hname)
    obtain ⟨declaration, hmem, hdeclares⟩ := List.mem_filterMap.mp hplace
    obtain ⟨site, hsite⟩ := exists_typeSite hsound hmem hdeclares
    rw [Tree.nameText, String.toList_ofList]
    exact ⟨declaration, hmem, place, hdeclares, site, hsite⟩

/-- A project with one source file. -/
def billing (source : String) : Project where
  tree := .folder [("p", .folder [("src", .folder [("invoice.ts", .file source.toUTF8)])])]
  root := "/p"
  config := { features := [{ name := "Billing", types := ["Invoice"] }] }

/-- A type declared in the usual way. -/
def exportedInvoice : String :=
  "export interface Invoice \x7b id: string \x7d"

def exportedInvoiceSite : TypeSite exportedInvoice.toList "Invoice".toList where
  before := "export ".toList
  word := "interface".toList
  gap := [' ']
  after := " \x7b id: string \x7d".toList
  text_eq := by decide
  word_mem := by decide
  before_apart := by decide
  gap_ne_nil := by decide
  after_apart := by decide

theorem contains_or_no_plain_site_exported :
    let project := billing exportedInvoice
    "/p/src/invoice.ts" ∈ project.walk "src" Walk.sources ∧
      (Reader.read .plain exportedInvoice.toList).IsSound exportedInvoice.toList ∧
      exportedInvoiceSite.IsPlain ∧ (ofProject project).contains .type "Invoice" = true := by
  intro project
  have hpath : "/p/src/invoice.ts" ∈ project.walk "src" Walk.sources := by
    decide +kernel
  have htext : project.text? "/p/src/invoice.ts" = some exportedInvoice := by
    decide +kernel
  have hdialect : Dialect.ofPath "/p/src/invoice.ts" = .plain := by decide
  have hparse : project.tools.parse (.ofPath "/p/src/invoice.ts") exportedInvoice.toList =
      some (Reader.read .plain exportedInvoice.toList) := by
    rw [hdialect]
    rfl
  have hsound : (Reader.read .plain exportedInvoice.toList).IsSound exportedInvoice.toList := by
    decide +kernel
  have hname : "Invoice" ∈ (project.facts "/p/src/invoice.ts" exportedInvoice.toList).types := by
    decide +kernel
  have hplain : exportedInvoiceSite.IsPlain := by
    refine ⟨List.all_eq_true.mp (by decide), by decide, List.all_eq_true.mp (by decide), ?_⟩
    intro front blanks word hword hbefore
    have hother : (declaringWords.all fun word =>
        word.any fun c => !exportedInvoiceSite.before.contains c) = true := by decide
    obtain ⟨c, hc, hnot⟩ := List.any_eq_true.mp (List.all_eq_true.mp hother word hword)
    rw [hbefore] at hnot
    simp [hc] at hnot
  refine ⟨hpath, hsound, hplain, ?_⟩
  obtain ⟨hcontains, -⟩ | ⟨-, hnone⟩ := contains_or_no_plain_site hpath htext hparse hsound hname
  · exact hcontains
  · exact absurd hplain (hnone _)

/-- A declared type behind a comment that ends in a declaring word. -/
def shadowedInvoice : String :=
  "// The shape of this type\ninterface Invoice \x7b id: string \x7d"

/-- The search takes the word of the declaration for a name, so the feature misses a type that is
declared. -/
theorem shadowedInvoice_missed :
    let project := billing shadowedInvoice
    "/p/src/invoice.ts" ∈ project.walk "src" Walk.sources ∧
      project.text? "/p/src/invoice.ts" = some shadowedInvoice ∧
      (Reader.read .plain shadowedInvoice.toList).IsSound shadowedInvoice.toList ∧
      "Invoice" ∈ (project.facts "/p/src/invoice.ts" shadowedInvoice.toList).types ∧
      (ofProject project).contains .type "Invoice" = false ∧
      (Features.analyze project).gaps.map (·.id) =
        ["feature-incomplete:billing", "feature-missing-types:billing"] := by
  refine ⟨by decide +kernel, by decide +kernel, by decide +kernel, by decide +kernel,
    by decide +kernel, by decide +kernel⟩

end ArtifactIndex

end GapAudit
