import Mathlib
import GapAudit.Proofs.Components.Missing
import GapAudit.Proofs.Features.Completion
import GapAudit.Proofs.FileTree.Addition
import GapAudit.Proofs.Text.Word
import GapAudit.Proofs.Walk.Files
import GapAudit.Structure.Services

/-!
# Which services have no types

A file of types fits a service if one of their names occurs in the other (`Services.Fits`). The
services without types are the files of services that no file of types fits and that declare none of
their own, in the order of their paths (`Services.untyped_eq_filter`). More files never make one of
them of what was a file of services before. In a tree without links, files of types never add one to
them (`Services.untyped_subset_of_addsFiles`), as long as the folder of services does not come into
being with them (`Services.untyped_appears`).
-/

namespace GapAudit.Services

open GapAudit.Path FileTree Text

variable {s t service stem name ending : List Char}

/-- What the stem of a file of types, in small letters, is about. -/
inductive TypesName : List Char → List Char → Prop
  | types (name : List Char) : TypesName (name ++ ".types".toList) name
  | declarations (name : List Char) : TypesName (name ++ ".d".toList) name
  | plain {stem : List Char} (htypes : ¬".types".toList <:+ stem)
    (hdeclarations : ¬".d".toList <:+ stem) : TypesName stem stem

/-- Whether the stem of a file of types fits what a service is about: one of the names occurs in the
other. A file whose stem is nothing but an ending fits a service about nothing, or about an `s`. -/
def Fits (service stem : List Char) : Prop :=
  ∃ name, TypesName (lower stem) name ∧
    (name ≠ [] ∧ (name <:+: lower service ∨ lower service <:+: name) ∨
      name = [] ∧ (lower service = [] ∨ lower service = ['s']))

lemma beforeWord?_eq_some_iff : beforeWord? ending s = some name ↔ s = name ++ ending := by
  rw [beforeWord?, Option.map_eq_some_iff]
  constructor
  · rintro ⟨rest, hrest, rfl⟩
    have hs := congrArg List.reverse (after?_eq_some hrest)
    simpa using hs
  · rintro rfl
    refine ⟨name.reverse, ?_, List.reverse_reverse name⟩
    rw [List.reverse_append, after?_append]

lemma beforeWord?_eq_none_iff : beforeWord? ending s = none ↔ ¬ending <:+ s := by
  rw [Option.eq_none_iff_forall_ne_some, List.IsSuffix, not_exists]
  refine forall_congr' fun name => not_congr ?_
  rw [beforeWord?_eq_some_iff, eq_comm]

lemma typesName_typesBase (stem : List Char) : TypesName stem (typesBase stem) := by
  rw [typesBase]
  cases htypes : beforeWord? ['.', 't', 'y', 'p', 'e', 's'] stem with
  | some name =>
    rw [beforeWord?_eq_some_iff.mp htypes]
    exact .types name
  | none =>
    cases hdeclarations : beforeWord? ['.', 'd'] stem with
    | some name =>
      rw [beforeWord?_eq_some_iff.mp hdeclarations]
      exact .declarations name
    | none =>
      exact .plain (beforeWord?_eq_none_iff.mp htypes) (beforeWord?_eq_none_iff.mp hdeclarations)

lemma TypesName.eq_typesBase (h : TypesName stem name) : name = typesBase stem := by
  cases h with
  | types name =>
    have htypes : beforeWord? ['.', 't', 'y', 'p', 'e', 's'] (name ++ ".types".toList) =
        some name :=
      beforeWord?_eq_some_iff.mpr rfl
    rw [typesBase, htypes]
    rfl
  | declarations name =>
    have hdeclarations : beforeWord? ['.', 'd'] (name ++ ".d".toList) = some name :=
      beforeWord?_eq_some_iff.mpr rfl
    have htypes : beforeWord? ['.', 't', 'y', 'p', 'e', 's'] (name ++ ".d".toList) = none := by
      refine beforeWord?_eq_none_iff.mpr fun ⟨other, hother⟩ => ?_
      have hlast := congrArg List.getLast? hother
      simp at hlast
    rw [typesBase, htypes, hdeclarations]
    rfl
  | plain htypes hdeclarations =>
    have hnoTypes : beforeWord? ['.', 't', 'y', 'p', 'e', 's'] stem = none :=
      beforeWord?_eq_none_iff.mpr htypes
    have hnoDeclarations : beforeWord? ['.', 'd'] stem = none :=
      beforeWord?_eq_none_iff.mpr hdeclarations
    rw [typesBase, hnoTypes, hnoDeclarations]
    rfl

/-- Beside a name that is not empty, the same name and a plural occur as parts of it anyway. -/
lemma pairs_iff :
    (s = t ∨ s ++ ['s'] = t ∨ t ++ ['s'] = s ∨ t ≠ [] ∧ (t <:+: s ∨ s <:+: t)) ↔
      t ≠ [] ∧ (t <:+: s ∨ s <:+: t) ∨ t = [] ∧ (s = [] ∨ s = ['s']) := by
  by_cases ht : t = []
  · subst ht
    simp [eq_comm (a := ['s'])]
  · constructor
    · rintro (rfl | rfl | rfl | h)
      · exact .inl ⟨ht, .inl (List.infix_refl s)⟩
      · exact .inl ⟨ht, .inr (List.prefix_append s ['s']).isInfix⟩
      · exact .inl ⟨ht, .inl (List.prefix_append t ['s']).isInfix⟩
      · exact .inl h
    · rintro (h | h)
      · exact .inr (.inr (.inr h))
      · exact absurd h.1 ht

theorem matchesTypes_iff : matchesTypes service stem = true ↔ Fits service stem := by
  have hcases : matchesTypes service stem = true ↔
      (lower service = typesBase (lower stem) ∨ lower service ++ ['s'] = typesBase (lower stem) ∨
        typesBase (lower stem) ++ ['s'] = lower service ∨
        typesBase (lower stem) ≠ [] ∧ (typesBase (lower stem) <:+: lower service ∨
          lower service <:+: typesBase (lower stem))) := by
    simp only [matchesTypes, Bool.or_eq_true, Bool.and_eq_true, beq_iff_eq, Bool.not_eq_true',
      List.isEmpty_eq_false_iff, occursIn_iff, or_assoc]
  rw [hcases, pairs_iff]
  constructor
  · exact fun h => ⟨_, typesName_typesBase (lower stem), h⟩
  · rintro ⟨name, hname, h⟩
    rwa [← hname.eq_typesBase]

/-- A text is cut where the ending of a service begins, or not at all. -/
lemma exists_ending (s : List Char) :
    ∃ ending, s = beforeEnding s ++ ending ∧ (ending = [] ∨ isServiceEnding ending = true) := by
  induction s with
  | nil => exact ⟨[], rfl, .inl rfl⟩
  | cons c s ih =>
    rw [beforeEnding]
    split
    · next hending => exact ⟨c :: s, rfl, .inr hending⟩
    · obtain ⟨ending, hs, hending⟩ := ih
      exact ⟨ending, congrArg (c :: ·) hs, hending⟩

/-- The name of a service is what it is about, with the ending of services or nothing behind it. -/
theorem exists_append_base (stem : List Char) :
    ∃ ending, stem = base stem ++ ending ∧ (ending = [] ∨ isServiceEnding ending = true) := by
  rw [base]
  split
  · exact ⟨[], (List.append_nil stem).symm, .inl rfl⟩
  · exact exists_ending stem

lemma base_prefix (stem : List Char) : base stem <+: stem := by
  obtain ⟨ending, hstem, -⟩ := exists_append_base stem
  exact ⟨ending, hstem.symm⟩

lemma base_ne_nil (h : stem ≠ []) : base stem ≠ [] := by
  rw [base]
  split
  · exact h
  · next hbase => exact mt List.isEmpty_iff.mpr hbase

/-- Whether a file of services is no index, no file of types fits it, and it declares no types, as
one that cannot be read does not. -/
structure IsUntyped (project : Project) (path : String) : Prop where
  notIndex : baseName path ≠ "index"
  noneFits : ∀ types ∈ project.walk project.config.layout.typesDir Walk.sources,
    ¬Fits (base (Path.stem path).toList) (Path.stem types).toList
  declaresNone : ∀ source, project.text? path = some source →
    (project.facts path source.toList).types = []

variable {project : Project} {more : FileTree} {path : String}

lemma declaresTypes_eq_false_iff : declaresTypes project path = false ↔
    ∀ source, project.text? path = some source →
      (project.facts path source.toList).types = [] := by
  rw [declaresTypes]
  cases htext : project.text? path with
  | none => simp
  | some source => simp

lemma isUntyped_iff : IsUntyped project path ↔
    (baseName path != "index" &&
      !(((project.walk project.config.layout.typesDir Walk.sources).map fun types =>
        (Path.stem types).toList).any (matchesTypes (base (Path.stem path).toList))) &&
      !declaresTypes project path) = true := by
  have hstems : (((project.walk project.config.layout.typesDir Walk.sources).map fun types =>
      (Path.stem types).toList).any (matchesTypes (base (Path.stem path).toList))) = false ↔
      ∀ types ∈ project.walk project.config.layout.typesDir Walk.sources,
        ¬Fits (base (Path.stem path).toList) (Path.stem types).toList := by
    simp only [List.any_map, List.any_eq_false, Function.comp_apply, matchesTypes_iff]
  rw [Bool.and_eq_true, Bool.and_eq_true, bne_iff_ne, Bool.not_eq_true', hstems, Bool.not_eq_true',
    declaresTypes_eq_false_iff]
  exact ⟨fun h => ⟨⟨h.notIndex, h.noneFits⟩, h.declaresNone⟩, fun h => ⟨h.1.1, h.1.2, h.2⟩⟩

open Classical in
/-- The services without types are the files of services that have none, in their order. -/
theorem untyped_eq_filter (project : Project) : untyped project =
    (project.walk project.config.layout.servicesDir Walk.sources).filter (IsUntyped project) := by
  rw [untyped]
  apply List.filter_congr
  intro path _
  rw [Bool.eq_iff_iff, decide_eq_true_iff]
  exact isUntyped_iff.symm

lemma mem_untyped_iff : path ∈ untyped project ↔
    path ∈ project.walk project.config.layout.servicesDir Walk.sources ∧
      IsUntyped project path := by
  classical
  rw [untyped_eq_filter, List.mem_filter, decide_eq_true_iff]

lemma IsUntyped.of_isPartOf (h : project.tree.IsPartOf more)
    (huntyped : IsUntyped { project with tree := more } path) : IsUntyped project path where
  notIndex := huntyped.notIndex
  noneFits := fun types htypes =>
    huntyped.noneFits types (Project.walk_subset h _ Walk.sources htypes)
  declaresNone := fun source hsource =>
    huntyped.declaresNone source (text?_of_isPartOf h hsource)

/-- Files that are added make no service untyped that was a file of services before. -/
theorem mem_untyped_of_isPartOf (h : project.tree.IsPartOf more)
    (hpath : path ∈ untyped { project with tree := more })
    (hservice : path ∈ project.walk project.config.layout.servicesDir Walk.sources) :
    path ∈ untyped project :=
  mem_untyped_iff.mpr ⟨hservice, (mem_untyped_iff.mp hpath).2.of_isPartOf h⟩

/-- Files of types add no service to those without types, in a tree without links whose folder of
services stands apart from them and does not come into being with them. -/
theorem untyped_subset_of_addsFiles (plain : project.tree.isPlain = true)
    (absolute : isAbsolute project.root = true)
    (hadded : AddsFiles (project.place project.config.layout.typesDir) project.tree more)
    (hapart : AreApart (project.place project.config.layout.typesDir)
      (project.place project.config.layout.servicesDir))
    (hfolder : more.isFolder (project.path project.config.layout.servicesDir) = true →
      project.tree.isFolder (project.path project.config.layout.servicesDir) = true) :
    untyped { project with tree := more } ⊆ untyped project := by
  intro path hpath
  refine mem_untyped_of_isPartOf (isPartOf_of_addsFiles hadded) hpath ?_
  have hplace : destination [] (project.path project.config.layout.servicesDir) =
      project.place project.config.layout.servicesDir := by
    rw [← Project.normalize_path absolute, normalize_eq]
  have hcollect := Walk.sources.collect_of_addsFiles plain
    (Project.isAbsolute_path absolute project.config.layout.servicesDir) hadded (hplace ▸ hapart)
    hfolder
  obtain ⟨hmem, hkept⟩ := List.mem_filter.mp (mem_untyped_iff.mp hpath).1
  exact List.mem_filter.mpr ⟨hcollect ▸ hmem, hkept⟩

open Classical in
/-- What the list of the services without types says. -/
structure ListsUntyped (project : Project) : Prop where
  untyped : untyped project =
    (project.walk project.config.layout.servicesDir Walk.sources).filter (IsUntyped project)
  inOrder : (Services.untyped project).Pairwise fun a b => sortKey a ≤ sortKey b
  distinct : project.tree.isNamed = true → isAbsolute project.root = true →
    (Services.untyped project).Pairwise fun a b => sortKey a < sortKey b

theorem listsUntyped (project : Project) : ListsUntyped project where
  untyped := untyped_eq_filter project
  inOrder := (project.pairwise_le_walk _ _).filter _
  distinct := fun hnamed absolute => (project.pairwise_walk hnamed absolute _ _).filter _

/-- Which files may be added without adding a service to those without types. -/
structure AddsNone (project : Project) : Prop where
  found : ∀ more, project.tree.IsPartOf more → ∀ path ∈ untyped { project with tree := more },
    path ∈ project.walk project.config.layout.servicesDir Walk.sources → path ∈ untyped project
  types : project.tree.isPlain = true → isAbsolute project.root = true →
    AreApart (project.place project.config.layout.typesDir)
      (project.place project.config.layout.servicesDir) →
    ∀ more, AddsFiles (project.place project.config.layout.typesDir) project.tree more →
      (more.isFolder (project.path project.config.layout.servicesDir) = true →
        project.tree.isFolder (project.path project.config.layout.servicesDir) = true) →
      untyped { project with tree := more } ⊆ untyped project

theorem addsNone (project : Project) : AddsNone project where
  found := fun _ h _ hpath hservice => mem_untyped_of_isPartOf h hpath hservice
  types := fun plain absolute hapart _ hadded hfolder =>
    untyped_subset_of_addsFiles plain absolute hadded hapart hfolder

theorem pairing_exact :
    (∀ service stem, matchesTypes service stem = true ↔ Fits service stem) ∧
      (∀ stem, stem ≠ [] → base stem ≠ [] ∧ base stem <+: stem) ∧
      ∀ project, ListsUntyped project ∧ AddsNone project :=
  ⟨fun _ _ => matchesTypes_iff, fun stem h => ⟨base_ne_nil h, base_prefix stem⟩,
    fun project => ⟨listsUntyped project, addsNone project⟩⟩

/-- A project with a service and a folder for types. -/
def payments : Project where
  tree := .folder [("p", .folder [("src", .folder [
    ("services", .folder [("user-api.ts", .file "export const find = 1;\n".toUTF8)]),
    ("types", .folder [])])])]
  root := "/p"
  config := {}

theorem pairing_exact_payments :
    let more := payments.tree.put (.file .empty) ["p", "src", "types", "Users.types.ts"]
    Fits (base "user-api".toList) "Users.types".toList ∧
      (base "user-api".toList ≠ [] ∧ base "user-api".toList <+: "user-api".toList) ∧
      untyped payments = ["/p/src/services/user-api.ts"] ∧
      untyped { payments with tree := more } = [] ∧
      untyped { payments with tree := more } ⊆ untyped payments := by
  intro more
  have hroom : payments.tree.HasRoomAt (["p", "src", "types"] ++ ["Users.types.ts"]) := by
    decide +kernel
  have hadded : AddsFiles (payments.place payments.config.layout.typesDir) payments.tree more := by
    have hplace : payments.place payments.config.layout.typesDir = ["p", "src", "types"] := by
      decide +kernel
    rw [hplace]
    exact .single (.put ["Users.types.ts"] .empty hroom)
  have hapart : AreApart (payments.place payments.config.layout.typesDir)
      (payments.place payments.config.layout.servicesDir) := by
    decide +kernel
  have hfolder :
      payments.tree.isFolder (payments.path payments.config.layout.servicesDir) = true := by
    decide +kernel
  obtain ⟨hmatches, hbase, hproject⟩ := pairing_exact
  refine ⟨(hmatches _ _).mp (by decide +kernel), hbase _ (by decide +kernel), by decide +kernel,
    by decide +kernel, ?_⟩
  exact (hproject payments).2.types (by decide +kernel) (by decide +kernel) hapart more hadded
    fun _ => hfolder

/-- A project whose path to its services passes a folder that is not there before its types are. -/
def passing : Project where
  tree := .folder [("p", .folder [("src", .folder [
    ("services", .folder [("billing.ts", .file "export const pay = 1;\n".toUTF8)])])])]
  root := "/p"
  config := { layout := { servicesDir := "src/lib/../services", typesDir := "src/lib/types" } }

/-- A project with a service that is a link to a file of types that is missing. -/
def linked : Project where
  tree := .folder [("p", .folder [("src", .folder [
    ("services", .folder [("billing.ts", .link "../types/account.ts")]),
    ("types", .folder [])])])]
  root := "/p"
  config := {}

/-- A file of types adds a service to those without types if the path to the services, or a link
among them, leads nowhere before the file is there. -/
theorem untyped_appears :
    let passingMore := passing.tree.put (.file .empty) ["p", "src", "lib", "types", "user.ts"]
    let linkedMore := linked.tree.put (.file .empty) ["p", "src", "types", "account.ts"]
    (AreApart (passing.place passing.config.layout.typesDir)
        (passing.place passing.config.layout.servicesDir) ∧
      AddsFiles (passing.place passing.config.layout.typesDir) passing.tree passingMore ∧
      untyped passing = [] ∧
      untyped { passing with tree := passingMore } = ["/p/src/lib/../services/billing.ts"]) ∧
    (AreApart (linked.place linked.config.layout.typesDir)
        (linked.place linked.config.layout.servicesDir) ∧
      AddsFiles (linked.place linked.config.layout.typesDir) linked.tree linkedMore ∧
      untyped linked = [] ∧
      untyped { linked with tree := linkedMore } = ["/p/src/services/billing.ts"]) := by
  intro passingMore linkedMore
  have hpassing : passing.place passing.config.layout.typesDir = ["p", "src", "lib", "types"] := by
    decide +kernel
  have hlinked : linked.place linked.config.layout.typesDir = ["p", "src", "types"] := by
    decide +kernel
  refine ⟨⟨by decide +kernel, ?_, by decide +kernel, by decide +kernel⟩,
    by decide +kernel, ?_, by decide +kernel, by decide +kernel⟩
  · have hroom : passing.tree.HasRoomAt (["p", "src", "lib", "types"] ++ ["user.ts"]) := by
      decide +kernel
    rw [hpassing]
    exact .single (.put ["user.ts"] .empty hroom)
  · have hroom : linked.tree.HasRoomAt (["p", "src", "types"] ++ ["account.ts"]) := by
      decide +kernel
    rw [hlinked]
    exact .single (.put ["account.ts"] .empty hroom)

end GapAudit.Services
