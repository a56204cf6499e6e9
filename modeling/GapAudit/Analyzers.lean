import GapAudit.Components.Inspection
import GapAudit.Dependencies.Analysis
import GapAudit.Engine
import GapAudit.Features.Analysis
import GapAudit.Quality.Analysis
import GapAudit.Structure.Analysis

/-!
The analyzers that come with the library, and the engine that runs those that are enabled.
-/

namespace GapAudit.Project

/-- How a run of the analyzer of a name on a project ends. -/
def outcome? (project : Project) (name : String) : Option (Outcome Float) :=
  match name with
  | "components" => some (.done (Components.analyze project))
  | "structure" => some (.done (Structure.analyze project))
  | "features" => some (.done (Features.analyze project))
  | "quality" => some (.done (Quality.analyze project))
  | "dependencies" =>
    match Dependencies.analyze project with
    | .ok result => some (.done result)
    | .error e => some (.failed [e.message, e.cause])
  | _ => none

/-- The enabled analyzers in the order in which they run, however the configuration orders them. -/
def analyzers (project : Project) : List (Analyzer Float) :=
  (analyzerNames.filter project.config.isEnabled).filterMap fun name =>
    (project.outcome? name).map fun outcome => ⟨name, outcome⟩

/-- The engine for a project, with the weights and the threshold of its configuration. -/
def engine (project : Project) : Except EngineError (Engine Float) :=
  let scoring := project.config.scoring
  let empty : Engine Float :=
    { projectPath := project.root, weights := scoring.workWeights
      threshold := scoring.readinessThreshold }
  empty.registerAll project.analyzers

end GapAudit.Project
