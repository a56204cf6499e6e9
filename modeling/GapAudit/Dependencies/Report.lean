import GapAudit.Gap
import GapAudit.Modules
import GapAudit.Project

/-!
Declared packages against imported ones: what is missing, what is not used, and the gaps of both.
-/

namespace GapAudit

open Arithmetic

/-- The packages that a project declares and those it imports, both in order and each once, and the
name of the project itself. -/
structure DependencyReport where
  declared : List String
  imported : List String
  projectName : Option String
  deriving DecidableEq, Repr

namespace DependencyReport

/-- Packages without which nothing works. -/
def criticalPackages : List String :=
  ["react", "react-dom", "react-router-dom", "@tanstack/react-query", "zod"]

/-- Tools that are used without being imported. -/
def implicitPackages : List String :=
  ["typescript", "vite", "vitest", "jest", "jsdom", "happy-dom", "eslint", "prettier",
    "tailwindcss", "postcss", "autoprefixer", "globals", "typescript-eslint", "husky",
    "lint-staged", "lovable-tagger"]

/-- Beginnings of the names of plugins, which their tools load. -/
def pluginBeginnings : List String :=
  ["@types/", "eslint-plugin-", "eslint-config-", "@typescript-eslint/", "@eslint/",
    "prettier-plugin-", "@tailwindcss/", "tailwindcss-", "postcss-", "@vitejs/", "vite-plugin-",
    "babel-", "babel/", "@babel-", "@babel/", "@testing-library/"]

/-- Packages that ready-made building blocks need and that are never to be removed. -/
def protectedPackages : List String :=
  ["class-variance-authority", "clsx", "tailwind-merge", "lucide-react", "cmdk", "vaul", "sonner",
    "input-otp", "next-themes", "date-fns", "react-day-picker", "embla-carousel-react",
    "react-resizable-panels", "recharts"]

/-- Beginnings of the names of further such packages. -/
def protectedBeginnings : List String :=
  ["@radix-ui/"]

/-- Whether a text begins with one of several others. -/
def beginsWithAny (beginnings : List String) (s : String) : Bool :=
  beginnings.any fun start => Text.startsWith start.toList s.toList

def isImplicit (package : String) : Bool :=
  implicitPackages.contains package || beginsWithAny pluginBeginnings package

def isProtected (package : String) : Bool :=
  protectedPackages.contains package || beginsWithAny protectedBeginnings package

/-- The report for lists of packages in any order. -/
def ofPackages (declared imported : List String) (projectName : Option String) : DependencyReport :=
  ⟨distinctSorted declared, distinctSorted imported, projectName⟩

/-- The packages that are imported but not declared. Those that come with the runtime and the
project itself need not be. -/
def missing (r : DependencyReport) : List String :=
  r.imported.filter fun package =>
    !r.declared.contains package && !Modules.isBuiltin package && r.projectName != some package

/-- The missing packages without which nothing works. -/
def criticalMissing (r : DependencyReport) : List String :=
  r.missing.filter criticalPackages.contains

def otherMissing (r : DependencyReport) : List String :=
  r.missing.filter fun package => !r.criticalMissing.contains package

/-- The packages that are declared but neither imported nor used without that. -/
def unused (r : DependencyReport) : List String :=
  r.declared.filter fun package => !r.imported.contains package && !isImplicit package

/-- The unused packages that may be removed. -/
def removable (r : DependencyReport) : List String :=
  r.unused.filter fun package => !isProtected package

/-- The score: deductions for each missing and each unused package. -/
def score {α : Type} [Arithmetic α] (r : DependencyReport) : α :=
  Score.clamp (100 - ofNat r.criticalMissing.length * 30 -
    ofNat (r.missing.length - r.criticalMissing.length) * 10 - ofNat r.unused.length * 2)

def criticalGap (manifest package : String) : Gap where
  id := s!"dependency-missing:{package}"
  severity := .critical
  category := "dependency"
  description := s!"Critical package {package} is imported but not declared"
  recommendation := s!"Run \x60npm install {package}\x60 so it is recorded in {manifest}"
  affectedFiles := [manifest]
  estimatedEffort := some .low

def missingGap (manifest package : String) : Gap where
  id := s!"dependency-missing:{package}"
  severity := .high
  category := "dependency"
  description := s!"Package {package} is imported but not declared"
  recommendation := s!"Run \x60npm install {package}\x60 or remove the imports that use it"
  affectedFiles := [manifest]
  estimatedEffort := some .low

def namedRemovable : Nat := 5

/-- The gap of removable packages, if there are any. -/
def removableGap? (manifest : String) (removable : List String) : Option Gap :=
  let named := " ".intercalate (removable.take namedRemovable)
  let listed := summarizeNames removable namedRemovable
  if removable.isEmpty then none
  else
    some {
      id := "dependency-removable"
      severity := .low
      category := "dependency"
      description := s!"{removable.length} declared package(s) are never imported: {listed}"
      recommendation := s!"Remove unused packages with \x60npm uninstall {named}\x60"
      affectedFiles := [manifest]
      estimatedEffort := some .low }

/-- The gap of unused packages that are not to be removed, if there are any. -/
def unusedGap? (manifest : String) (count : Nat) : Option Gap :=
  if count = 0 then none
  else
    some {
      id := "dependency-unused"
      severity := .low
      category := "dependency"
      description := s!"{count} more declared package(s) are not imported directly"
      recommendation :=
        "Review these UI-kit runtime packages and remove the ones no generated " ++
          "component uses"
      affectedFiles := [manifest] }

/-- All gaps: missing packages, the critical ones first, then unused ones. -/
def gaps (r : DependencyReport) (manifest : String) : List Gap :=
  r.criticalMissing.map (criticalGap manifest) ++ r.otherMissing.map (missingGap manifest) ++
    (removableGap? manifest r.removable).toList ++
    (unusedGap? manifest (r.unused.length - r.removable.length)).toList

end DependencyReport

end GapAudit
