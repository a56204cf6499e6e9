import Mathlib
import GapAudit.Dependencies.Analysis
import GapAudit.Proofs.Keyed
import GapAudit.Proofs.Text.Word

/-!
# Modules of the runtime in the report on dependencies

A specifier under the scheme of the runtime asks for the module whose name follows the scheme
(`Modules.names_module_of_scheme`). The scheme is lost on the way to the report, where the bare name
is looked up in a list (`Modules.isBuiltin_iff`). So a module that is asked for under the scheme
only is kept from the missing packages by being listed, and by nothing else that the scheme says
(`DependencyReport.mem_missing_of_onlyUnderScheme`).
-/

namespace GapAudit

open Text

namespace Modules

def scheme : List Char :=
  ['n', 'o', 'd', 'e', ':']

/-- Whether the list of the runtime's modules has a name, with or without the scheme. -/
def IsListed (name : String) : Prop :=
  name ∈ builtinModules ∨ ∃ module ∈ builtinModules, name.toList = scheme ++ module.toList

/-- Whether a text imports a package, and always under the scheme of the runtime. -/
structure OnlyUnderScheme (source : List Char) (package : String) : Prop where
  mem : package ∈ packages source
  under : ∀ specifier ∈ specifiers source, packageName? specifier = some package →
    scheme <+: specifier.toList

lemma OnlyUnderScheme.of_specifiers_eq {source : List Char} {specifier package : String}
    (h : specifiers source = [specifier]) (hscheme : scheme <+: specifier.toList)
    (hpackage : packageName? specifier = some package) : OnlyUnderScheme source package where
  mem := mem_distinctSorted.mpr (List.mem_filterMap.mpr ⟨specifier, by simp [h], hpackage⟩)
  under := by
    intro other hmem _
    rw [h, List.mem_singleton] at hmem
    rw [hmem]
    exact hscheme

lemma packageOf?_scheme (s : List Char) : packageOf? (scheme ++ s) = some (firstSegment s) := by
  have halias : aliasBeginnings.any (fun start => startsWith start.toList (scheme ++ s)) = false := by
    simp only [aliasBeginnings, List.any_cons, List.any_nil, Bool.or_false]
    rfl
  have hrest : after? ['n', 'o', 'd', 'e', ':'] (scheme ++ s) = some s := after?_append scheme s
  unfold packageOf?
  rw [if_neg (by simp [scheme]), halias, hrest]
  rfl

lemma firstSegment_append (s : List Char) :
    ∃ below, s = firstSegment s ++ below ∧ ∀ c ∈ below.head?, c = '/' := by
  refine ⟨s.dropWhile (· != '/'), List.takeWhile_append_dropWhile.symm, ?_⟩
  intro c hc
  have hstop := List.head?_dropWhile_not (· != '/') s
  rw [hc] at hstop
  simpa using hstop

/-- Under the scheme, the name of the package is the name of the module, up to the first slash. -/
lemma names_module_of_scheme {specifier package : String} (hscheme : scheme <+: specifier.toList)
    (h : packageName? specifier = some package) :
    ∃ below, specifier.toList = scheme ++ (package.toList ++ below) ∧
      ∀ c ∈ below.head?, c = '/' := by
  obtain ⟨s, hs⟩ := hscheme
  have hpackage : package.toList = firstSegment s := by
    unfold packageName? at h
    rw [← hs, packageOf?_scheme] at h
    obtain rfl := Option.some.inj h
    exact String.toList_ofList
  obtain ⟨below, hbelow, hhead⟩ := firstSegment_append s
  exact ⟨below, by rw [← hs, hpackage, ← hbelow], hhead⟩

/-- No listed name has the scheme itself. -/
lemma after?_scheme_of_mem {module : String} (h : module ∈ builtinModules) :
    after? scheme module.toList = none := by
  have hall : ∀ module ∈ builtinModules, after? scheme module.toList = none := by decide +kernel
  exact hall module h

lemma isBuiltin_iff (name : String) : isBuiltin name = true ↔ IsListed name := by
  change builtinModules.contains
    (String.ofList ((after? scheme name.toList).getD name.toList)) = true ↔ _
  rw [List.contains_iff_mem]
  constructor
  · intro h
    cases hrest : after? scheme name.toList with
    | none =>
      rw [hrest, Option.getD_none, String.ofList_toList] at h
      exact .inl h
    | some rest =>
      rw [hrest, Option.getD_some] at h
      refine .inr ⟨_, h, ?_⟩
      rw [String.toList_ofList]
      exact after?_eq_some hrest
  · rintro (h | ⟨module, h, hname⟩)
    · rw [after?_scheme_of_mem h, Option.getD_none, String.ofList_toList]
      exact h
    · rw [hname, after?_append, Option.getD_some, String.ofList_toList]
      exact h

end Modules

namespace DependencyReport

lemma mem_missing_ofPackages {package : String} {declared imported : List String}
    {projectName : Option String} :
    package ∈ (ofPackages declared imported projectName).missing ↔
      package ∈ imported ∧ package ∉ declared ∧ ¬Modules.IsListed package ∧
        projectName ≠ some package := by
  unfold missing ofPackages
  rw [List.mem_filter, mem_distinctSorted, ← Modules.isBuiltin_iff]
  simp [mem_distinctSorted, and_assoc]

/-- A module that a text asks for under the scheme of the runtime only is missing exactly if it is
neither declared nor listed nor the project itself. -/
theorem mem_missing_of_onlyUnderScheme {source : List Char} {package : String}
    (h : Modules.OnlyUnderScheme source package) (declared : List String)
    (projectName : Option String) :
    (∀ specifier ∈ Modules.specifiers source, Modules.packageName? specifier = some package →
      ∃ below, specifier.toList = Modules.scheme ++ (package.toList ++ below) ∧
        ∀ c ∈ below.head?, c = '/') ∧
    (package ∈ (ofPackages declared (Modules.packages source) projectName).missing ↔
      package ∉ declared ∧ ¬Modules.IsListed package ∧ projectName ≠ some package) := by
  constructor
  · intro specifier hmem hpackage
    exact Modules.names_module_of_scheme (h.under specifier hmem hpackage) hpackage
  · rw [mem_missing_ofPackages]
    exact and_iff_right h.mem

/-- A text that asks for part of a listed module. -/
def promisesImport : String :=
  "import \x7b readFile \x7d from \"node:fs/promises\";\n"

theorem mem_missing_of_onlyUnderScheme_promises :
    Modules.OnlyUnderScheme promisesImport.toList "fs" ∧
      "fs" ∉ (ofPackages [] (Modules.packages promisesImport.toList) none).missing := by
  have honly : Modules.OnlyUnderScheme promisesImport.toList "fs" :=
    .of_specifiers_eq (by decide +kernel : Modules.specifiers _ = ["node:fs/promises"]) (by decide)
      (by decide +kernel)
  have hlisted : Modules.IsListed "fs" := .inl (by decide)
  have hmissing := (mem_missing_of_onlyUnderScheme honly [] none).2
  exact ⟨honly, fun h => (hmissing.mp h).2.1 hlisted⟩

/-- A text that asks for a module that only the scheme can name. -/
def testImport : String :=
  "import test from \"node:test\";\n"

/-- The list does not have it, so it is reported though it comes with the runtime. -/
theorem testImport_missing :
    Modules.specifiers testImport.toList = ["node:test"] ∧
      Modules.OnlyUnderScheme testImport.toList "test" ∧
      (ofPackages [] (Modules.packages testImport.toList) none).missing = ["test"] := by
  have hspecifiers : Modules.specifiers testImport.toList = ["node:test"] := by decide +kernel
  exact ⟨hspecifiers, .of_specifiers_eq hspecifiers (by decide) (by decide +kernel),
    by decide +kernel⟩

end DependencyReport

end GapAudit
