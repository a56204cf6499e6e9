import GapAudit.Config.Text
import GapAudit.Config.Validation

/-!
The configuration of a run: what is loaded, changed by what the run itself asks for, and valid.
-/

namespace GapAudit

/-- What a run asks for beside its configuration. -/
structure Overrides where
  /-- The configuration file to use instead of the one in the root of the project. -/
  configFile : Option String := none
  skipTypecheck : Bool := false
  /-- The analyzers to run, all that are configured if there are none. -/
  analyzers : List String := []
  deriving DecidableEq, Repr

/-- Why there is no configuration for a run. -/
inductive ResolutionError where
  | load (e : Config.LoadError)
  | invalid (e : ConfigError)

def ResolutionError.message : ResolutionError → String
  | .load e => e.message
  | .invalid e => e.message

namespace Config

/-- The configuration with what a run asks for. -/
def override (config : Config) (overrides : Overrides) : Config :=
  let analyzers :=
    if overrides.analyzers.isEmpty then config.analyzers
    else overrides.analyzers.map fun name => String.ofList (Text.trim name.toList)
  let typecheck :=
    if overrides.skipTypecheck then { config.typecheck with enabled := false }
    else config.typecheck
  { config with analyzers, typecheck }

/-- The valid configuration of a run in the folder `here`. -/
def resolve (tree : FileTree) (here root : String) (overrides : Overrides) :
    Except ResolutionError Config := do
  let loaded ← (load tree here root overrides.configFile).mapError .load
  let config := loaded.override overrides
  config.validate.mapError .invalid
  return config

end Config

end GapAudit
