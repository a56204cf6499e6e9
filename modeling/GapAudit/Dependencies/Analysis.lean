import GapAudit.AnalyzerResult
import GapAudit.Dependencies.Manifest
import GapAudit.Dependencies.Report

/-!
The analyzer of dependencies: the manifest of a project against what its sources import.
-/

namespace GapAudit.Dependencies

/-- The walk over sources and tests, without vendor code and test data. -/
def scanWalk : Walk :=
  ⟨sourceExtensions, vendorFolders ++ fixtureFolders, false⟩

/-- Patterns of the configuration files of tools in the root of a project. -/
def toolFilePatterns : List String :=
  ["vite.config.*", "tailwind.config.*", "postcss.config.*", "eslint.config.*", ".eslintrc.cjs",
    "vitest.config.*", "jest.config.*"]

/-- The configuration files of tools in the root of a project. -/
def toolFiles (project : Project) : List String :=
  match project.tree.entry? project.root with
  | some (.folder entries) =>
    Path.sort (((entries.map (·.1)).filter fun name =>
      toolFilePatterns.any fun pattern => Glob.matchesPath pattern name).map project.path |>.filter
        project.tree.isFile)
  | _ => []

def scannedFiles (project : Project) : List String :=
  project.walk project.config.layout.sourceRoot scanWalk ++ toolFiles project

def imported (project : Project) : List String :=
  ((scannedFiles project).filterMap project.text?).flatMap fun source =>
    Modules.packages source.toList

def summarize (report : DependencyReport) (manifest : String) : AnalyzerResult Float :=
  (((AnalyzerResult.blank "dependencies").withScore report.score).withEntries [
    ("declared", .count report.declared.length),
    ("imported", .count report.imported.length),
    ("missing", .list report.missing),
    ("criticalMissing", .list report.criticalMissing),
    ("unused", .list report.unused),
    ("removable", .count report.removable.length)]).withGaps (report.gaps manifest)

/-- The result of the analyzer of dependencies, if the manifest can be read. -/
def analyze (project : Project) : Except ManifestError (AnalyzerResult Float) := do
  let path := project.config.layout.manifest
  let manifest ← Manifest.load project.tools project.tree (project.path path)
  return summarize (.ofPackages manifest.declared (imported project) manifest.name) path

end GapAudit.Dependencies
