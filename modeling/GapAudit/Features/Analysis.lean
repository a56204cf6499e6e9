import GapAudit.AnalyzerResult
import GapAudit.Features.Status

/-!
The analyzer of features: the status of each configured feature, and the components that belong to
none.
-/

namespace GapAudit.Features

open Arithmetic

/-- The names of components that belong to no feature and are not allowed to stand alone. Names that
differ only in case, hyphens and underscores count as one. -/
def orphans (project : Project) : List String :=
  let config := project.config
  let known := (config.features.flatMap fun f => f.components ++ f.pages) ++ config.orphanAllowlist
  let known := known.map FeatureStatus.loose
  let names := (project.walk config.layout.componentsDir Walk.components).map Path.baseName
  (distinctSorted (names.filter (· != "index"))).filter fun name =>
    !known.contains (FeatureStatus.loose name)

/-- The gap of components that belong to no feature, if there are any. -/
def orphanGap? (layout : Layout) (orphans : List String) : Option Gap :=
  if orphans.isEmpty then none
  else
    some {
      id := "feature-orphan-components"
      severity := .low
      category := "feature"
      description :=
        s!"{orphans.length} component(s) are not part of any feature: {summarizeNames orphans 10}"
      recommendation :=
        "Wire each orphaned component into a feature, add it to a feature descriptor, " ++
          "or delete it if it is dead code"
      affectedFiles := orphans.map (ArtifactKind.component.usualPath layout)
      estimatedEffort := some .low }

/-- The mean share of what exists, to the hundredth, and all where there are no features. -/
def score {α : Type} [Arithmetic α] (statuses : List FeatureStatus) : α :=
  if statuses.isEmpty then 100
  else
    Score.roundHundredths
      (sum (statuses.map fun status => status.completion) / ofNat statuses.length)

/-- The result for the statuses of features and the components that belong to none. -/
def summarize (layout : Layout) (statuses : List FeatureStatus) (orphans : List String) :
    AnalyzerResult Float :=
  (((AnalyzerResult.blank "features").withScore (score statuses)).withEntries [
    ("featureCount", .count statuses.length),
    ("completeFeatures",
      .count (statuses.countP fun status => FeatureStatus.isComplete (status.completion : Float))),
    ("completion", .map (.ofEntries (statuses.map fun status =>
      (status.name, Score.roundHundredths status.completion)))),
    ("orphanComponents", .list orphans)]).withGaps
      (statuses.flatMap (·.gaps layout) ++ (orphanGap? layout orphans).toList)

def analyze (project : Project) : AnalyzerResult Float :=
  let index := ArtifactIndex.ofProject project
  summarize project.config.layout (project.config.features.map (FeatureStatus.ofFeature · index))
    (orphans project)

end GapAudit.Features
