import GapAudit.AnalyzerResult
import GapAudit.Components.Report
import GapAudit.Project

/-!
Inspection of the component files of a project: their imports are resolved in the tree, and each
file is scored.
-/

namespace GapAudit

open Text

/-- The components of an absolute path without points: two points take back the component before
them, and at the root they stay there. -/
def normalizeOnto (above : List String) : List String → List String
  | [] => above.reverse
  | name :: rest =>
    if name == "." then normalizeOnto above rest
    else if name == ".." then normalizeOnto above.tail rest
    else normalizeOnto (name :: above) rest

def normalize (path : String) : List String :=
  normalizeOnto [] (Path.components path)

def absolutePath (components : List String) : String :=
  "/" ++ "/".intercalate components

def parentPath (path : String) : String :=
  if Path.isAbsolute path then absolutePath (Path.components path).dropLast
  else "/".intercalate (Path.components path).dropLast

/-- At an occurrence of a name: whether it is a whole identifier, and the text behind it. -/
def occurrence? (name : List Char) (before : Option Char) (s : List Char) :
    Option (Bool × List Char) :=
  (after? name s).map fun rest =>
    (!before.any isIdentifierChar && !rest.head?.any isIdentifierChar, rest)

/-- Whether a name occurs in a text as a whole identifier. -/
def identifierUsed (text name : List Char) : Bool :=
  (scan (occurrence? name) text).any id

namespace Components

/-- Words that show that errors are caught. -/
def isolationMarkers : List String :=
  ["componentDidCatch", "getDerivedStateFromError", "ErrorBoundary"]

/-- Beginnings of specifiers of external building blocks. -/
def externalBeginnings : List String :=
  ["@/components/ui/", "@radix-ui/", "lucide-react", "react-icons", "@heroicons/",
    "react-hook-form", "@hookform/"]

/-- Extensions that an import may leave out. -/
def impliedExtensions : List String :=
  ["tsx", "ts", "jsx", "js"]

/-- Hooks that may be imported without being used. -/
def exemptHooks : List String :=
  ["useState", "useEffect", "useCallback", "useMemo", "useRef", "useContext", "useReducer",
    "useLayoutEffect"]

def beginsWith (start s : String) : Bool :=
  startsWith start.toList s.toList

def isFramework (specifier : String) : Bool :=
  specifier == "react" || specifier == "react-dom" || beginsWith "react/" specifier ||
    beginsWith "react-dom/" specifier

def isExternal (specifier : String) : Bool :=
  externalBeginnings.any fun start => beginsWith start specifier

/-- The components of the path that a specifier names, if it points into the folder of
components. -/
def target? (project : Project) (importer specifier : String) : Option (List String) :=
  let layout := project.config.layout
  let named :=
    if isFramework specifier then none
    else if beginsWith "." specifier then some (Path.join (parentPath importer) specifier)
    else
      (after? layout.aliasPrefix.toList specifier.toList).map fun rest =>
        Path.join (project.path layout.aliasRoot) (String.ofList rest)
  named.bind fun path =>
    let components := normalize path
    if (normalize (project.path layout.componentsDir)).isPrefixOf components then some components
    else none

/-- Whether the path with the given components is a file as it stands, with an extension added, or
as a folder with an index. -/
def resolves (tree : FileTree) (components : List String) : Bool :=
  let path := absolutePath components
  tree.isFile path || impliedExtensions.any (fun extension => tree.isFile s!"{path}.{extension}") ||
    impliedExtensions.any fun extension => tree.isFile (Path.join path s!"index.{extension}")

/-- The part of a text that its bytes from `start` up to `stop` leave, with a line break in the
middle. -/
def withoutRange (s : List Char) (start stop : Nat) : List Char :=
  takeBytes start s ++ '\n' :: dropBytes (max start stop) s

/-- The names bound by an import that occur nowhere else in the text. -/
def unusedNames (source : List Char) (i : Import) : List String :=
  let body := withoutRange source i.start i.stop
  i.names.filter fun name => !exemptHooks.contains name && !identifierUsed body name.toList

/-- The imports of a file that point into the folder of components, with their targets. -/
def componentImports (project : Project) (path : String) (facts : Facts) :
    List (Import × List String) :=
  facts.imports.filterMap fun i => (target? project path i.source).map (i, ·)

/-- What is found in one component file with the given text. -/
def inspect (project : Project) (path source : String) : ComponentReport :=
  let chars := source.toList
  let facts := project.facts path chars
  let imports := componentImports project path facts
  let hasProps := facts.hasTypeEnding "Props"
  { file := project.relative path
    component := facts.primaryComponent?.getD (Path.baseName path)
    hasPropsInterface := hasProps
    hasPropValidation := hasProps
    hasErrorIsolation := isolationMarkers.any fun marker => occursIn marker.toList chars
    accessibility := .assess facts.elements
    missingImports :=
      (imports.filter fun (i, target) =>
        !isExternal i.source && !resolves project.tree target).map (·.1.source)
    unusedImports := imports.flatMap fun (i, _) => unusedNames chars i }

/-- The reports on all component files that can be read, in the order of their paths. -/
def inspectAll (project : Project) : List ComponentReport :=
  (project.walk project.config.layout.componentsDir Walk.components).filterMap fun path =>
    (project.text? path).map (inspect project path)

def summarize (reports : List ComponentReport) : AnalyzerResult Float :=
  let count (p : ComponentReport → Bool) : MetadataValue := .count (reports.countP p)
  let total (f : ComponentReport → List String) : MetadataValue :=
    .count (reports.flatMap f).length
  (((AnalyzerResult.blank "components").withScore
    (Score.mean (reports.map (·.completeness)))).withEntries [
    ("componentCount", .count reports.length),
    ("withPropsInterface", count (·.hasPropsInterface)),
    ("withErrorIsolation", count (·.hasErrorIsolation)),
    ("averageAccessibility", .float (Score.mean (reports.map (·.accessibility.score)))),
    ("missingImports", total (·.missingImports)),
    ("unusedImports", total (·.unusedImports))]).withGaps (reports.flatMap (·.gaps))

def analyze (project : Project) : AnalyzerResult Float :=
  summarize (inspectAll project)

end Components

end GapAudit
