import GapAudit.Score

/-!
The configuration: the expected layout of a project, the features it must have, and how it is
scored.
-/

namespace GapAudit

/-- Where things lie in a project, relative to its root. -/
structure Layout where
  sourceRoot : String := "src"
  componentsDir : String := "src/components"
  uiKitDir : String := "src/components/ui"
  pagesDir : String := "src/pages"
  servicesDir : String := "src/services"
  typesDir : String := "src/types"
  utilityDirs : List String := ["src/lib", "src/utils", "src/hooks"]
  appRoot : String := "src/App.tsx"
  manifest : String := "package.json"
  aliasPrefix : String := "@/"
  aliasRoot : String := "src"
  deriving DecidableEq, Repr

/-- What every project must have, and the pages that need no route. -/
structure Skeleton where
  requiredDirectories : List String :=
    ["src", "src/components", "src/pages", "src/services", "src/types", "src/hooks"]
  requiredFiles : List String :=
    ["package.json", "tsconfig.json", "index.html", "src/App.tsx", "src/main.tsx"]
  routeExclusions : List String := ["NotFound", "Index", "Layout"]
  deriving DecidableEq, Repr

/-- The kinds of things that make up a feature, in the order of reports. -/
inductive ArtifactKind where
  | component
  | service
  | type
  | page
  deriving DecidableEq, Repr

/-- A feature with the names of what it needs. -/
structure Feature where
  name : String := ""
  description : String := ""
  components : List String := []
  services : List String := []
  types : List String := []
  pages : List String := []
  deriving DecidableEq, Repr

namespace Feature

def required (feature : Feature) : ArtifactKind → List String
  | .component => feature.components
  | .service => feature.services
  | .type => feature.types
  | .page => feature.pages

def requiredCount (feature : Feature) : Nat :=
  feature.components.length + feature.services.length + feature.types.length +
    feature.pages.length

/-- The features of a product that does not list its own. -/
def standard : List Feature := [
  { name := "Authentication"
    description := "Sign in, sign up and session handling"
    components := ["LoginForm", "SignupForm", "ProtectedRoute"]
    services := ["authService"]
    types := ["User", "AuthState"]
    pages := ["Login", "Signup"] },
  { name := "Dashboard"
    description := "Overview of key metrics and recent activity"
    components := ["DashboardStats", "RecentActivity"]
    services := ["dashboardService"]
    types := ["DashboardMetrics"]
    pages := ["Dashboard"] },
  { name := "Projects"
    description := "Create, list and edit projects"
    components := ["ProjectCard", "ProjectList", "ProjectForm"]
    services := ["projectService"]
    types := ["Project"]
    pages := ["Projects", "ProjectDetail"] },
  { name := "Settings"
    description := "User profile and preferences"
    components := ["ProfileForm", "PreferencesForm"]
    services := ["settingsService"]
    types := ["UserSettings"]
    pages := ["Settings"] },
  { name := "Notifications"
    description := "In-app notification center"
    components := ["NotificationList", "NotificationItem"]
    services := ["notificationService"]
    types := ["Notification"]
    pages := [] }]

end Feature

/-- The program that checks types: its name and arguments. -/
structure TypecheckSettings where
  enabled : Bool := true
  command : List String := ["npx", "tsc", "--noEmit", "--pretty", "false"]
  deriving DecidableEq, Repr

/-- The numbers that scoring depends on. -/
structure ScoringSettings where
  workWeights : WorkWeights Float := .standard
  readinessThreshold : Float := 80

/-- The names of all analyzers in the order in which they run. -/
def analyzerNames : List String :=
  ["components", "structure", "features", "quality", "dependencies"]

/-- The shared building blocks that belong to no feature. -/
def standardAllowlist : List String :=
  ["Accordion", "Alert", "AlertDialog", "AspectRatio", "Avatar", "Badge", "Breadcrumb", "Button",
    "Calendar", "Card", "Carousel", "Chart", "Checkbox", "Collapsible", "Command", "ContextMenu",
    "Dialog", "Drawer", "DropdownMenu", "ErrorBoundary", "Form", "HoverCard", "Input", "InputOtp",
    "Label", "Layout", "Menubar", "NavigationMenu", "Pagination", "Popover", "Progress",
    "RadioGroup", "Resizable", "ScrollArea", "Select", "Separator", "Sheet", "Sidebar", "Skeleton",
    "Slider", "Sonner", "Switch", "Table", "Tabs", "Textarea", "Toast", "Toaster", "Toggle",
    "ToggleGroup", "Tooltip"]

/-- A configuration. Without any settings it describes a usual project. -/
structure Config where
  layout : Layout := {}
  skeleton : Skeleton := {}
  features : List Feature := Feature.standard
  orphanAllowlist : List String := standardAllowlist
  typecheck : TypecheckSettings := {}
  scoring : ScoringSettings := {}
  excludedPaths : List String := []
  analyzers : List String := analyzerNames

def Config.isEnabled (config : Config) (analyzer : String) : Bool :=
  config.analyzers.contains analyzer

end GapAudit
