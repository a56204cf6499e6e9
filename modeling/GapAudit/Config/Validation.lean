import GapAudit.Config.Basic
import GapAudit.Decimal.Notation
import GapAudit.Glob
import GapAudit.Text.Blank
import GapAudit.Text.Case
import GapAudit.Text.Quoted

/-!
What makes a configuration valid, and what is said of the first thing that does not.
-/

namespace GapAudit

/-- Why a configuration is not valid. -/
inductive ConfigError where
  | unknownAnalyzer (name : String)
  | emptyCommand
  | blankFeature
  | duplicateFeature (name : String)
  | invalidPattern (pattern : String) (cause : Glob.Error)
  | thresholdOutOfRange (threshold : Float)

/-- What is said of a configuration that is not valid; of a pattern only which one it is. -/
def ConfigError.message : ConfigError → String
  | .unknownAnalyzer name =>
    s!"unknown analyzer {Text.quote name}, expected one of: " ++ ", ".intercalate analyzerNames
  | .emptyCommand => "typecheck.command must not be empty when typecheck is enabled"
  | .blankFeature => "feature names must not be empty"
  | .duplicateFeature name => s!"duplicate feature {Text.quote name}"
  | .invalidPattern pattern _ => s!"invalid excluded_paths pattern {Text.quote pattern}"
  | .thresholdOutOfRange threshold =>
    s!"scoring.readiness_threshold must be within 0-100, got {Decimal.plainText threshold}"

namespace Config

/-- The first name that belongs to no analyzer. -/
def checkAnalyzers (names : List String) : Except ConfigError Unit :=
  match names.find? fun name => !analyzerNames.contains name with
  | some name => .error (.unknownAnalyzer name)
  | none => .ok ()

/-- The first feature whose name is blank or was seen before in any mixture of cases. -/
def checkFeatures (seen : List String) : List Feature → Except ConfigError Unit
  | [] => .ok ()
  | feature :: rest =>
    if Text.allBlank feature.name.toList then .error .blankFeature
    else if seen.contains (Text.lowercase feature.name) then
      .error (.duplicateFeature feature.name)
    else checkFeatures (Text.lowercase feature.name :: seen) rest

/-- The first text that is no pattern. -/
def checkPatterns : List String → Except ConfigError Unit
  | [] => .ok ()
  | pattern :: rest =>
    match Glob.read pattern with
    | .error cause => .error (.invalidPattern pattern cause)
    | .ok _ => checkPatterns rest

/-- Whether a configuration is valid, and if not, the first reason. -/
def validate (config : Config) : Except ConfigError Unit := do
  checkAnalyzers config.analyzers
  if config.typecheck.enabled && config.typecheck.command.isEmpty then throw .emptyCommand
  checkFeatures [] config.features
  checkPatterns config.excludedPaths
  let threshold := config.scoring.readinessThreshold
  if !(0 ≤ threshold && threshold ≤ 100) then throw (.thresholdOutOfRange threshold)

/-- Whether a path relative to the project is to be passed over everywhere. -/
def isExcluded (config : Config) (path : String) : Bool :=
  config.excludedPaths.any fun pattern => Glob.matchesPath pattern path

end Config

end GapAudit
