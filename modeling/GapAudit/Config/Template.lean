import GapAudit.Text.Scan

/-!
Templates for a first configuration.
-/

namespace GapAudit

structure Template where
  name : String
  description : String
  lines : List String

namespace Template

def text (template : Template) : String :=
  Text.ofLines template.lines

/-- The lines of the template with every setting. -/
def standardLines : List String := [
  "# gapcheck configuration",
  "#",
  "# Every key is optional; anything left out falls back to the built-in default.",
  "# Paths are relative to the project root.",
  "",
  "# Analyzers to run.",
  "analyzers:",
  "  - components",
  "  - structure",
  "  - features",
  "  - quality",
  "  - dependencies",
  "",
  "layout:",
  "  source_root: src",
  "  components_dir: src/components",
  "  # exempt from naming and test coverage checks",
  "  ui_kit_dir: src/components/ui",
  "  pages_dir: src/pages",
  "  services_dir: src/services",
  "  types_dir: src/types",
  "  # camelCase or kebab-case file names are expected here",
  "  utility_dirs:",
  "    - src/lib",
  "    - src/utils",
  "    - src/hooks",
  "  # file declaring <Route> elements",
  "  app_root: src/App.tsx",
  "  manifest: package.json",
  "  # \x60@/components/Button\x60 resolves to \x60src/components/Button\x60",
  "  alias_prefix: \"@/\"",
  "  alias_root: src",
  "",
  "structure:",
  "  required_directories:",
  "    - src",
  "    - src/components",
  "    - src/pages",
  "    - src/services",
  "    - src/types",
  "    - src/hooks",
  "  required_files:",
  "    - package.json",
  "    - tsconfig.json",
  "    - index.html",
  "    - src/App.tsx",
  "    - src/main.tsx",
  "  # pages that never need their own route",
  "  route_exclusions:",
  "    - NotFound",
  "    - Index",
  "    - Layout",
  "",
  "# Product features and the artifacts each one needs.",
  "features:",
  "  - name: Authentication",
  "    description: Sign in, sign up and session handling",
  "    components: [LoginForm, SignupForm, ProtectedRoute]",
  "    services: [authService]",
  "    types: [User, AuthState]",
  "    pages: [Login, Signup]",
  "",
  "  - name: Dashboard",
  "    description: Overview of key metrics and recent activity",
  "    components: [DashboardStats, RecentActivity]",
  "    services: [dashboardService]",
  "    types: [DashboardMetrics]",
  "    pages: [Dashboard]",
  "",
  "# Shared primitives that never count as orphaned components",
  "# (matched ignoring case and dashes, so \x60alert-dialog\x60 matches AlertDialog).",
  "orphan_allowlist:",
  "  - Button",
  "  - Card",
  "  - Dialog",
  "  - Input",
  "  - Label",
  "  - Toast",
  "  - Toaster",
  "  - Tooltip",
  "",
  "typecheck:",
  "  enabled: true",
  "  command: [npx, tsc, --noEmit, --pretty, \"false\"]",
  "",
  "scoring:",
  "  readiness_threshold: 80",
  "  work_weights:",
  "    critical: 4",
  "    high: 2",
  "    medium: 1",
  "    low: 0.5",
  "",
  "# Glob patterns skipped by every analyzer.",
  "excluded_paths:",
  "  - \"**/generated/**\""]

/-- The lines of the template with few settings. -/
def minimalLines : List String := [
  "# gapcheck configuration (minimal)",
  "",
  "layout:",
  "  app_root: src/App.tsx",
  "",
  "features:",
  "  - name: Core",
  "    description: The screens every release needs",
  "    components: []",
  "    services: []",
  "    types: []",
  "    pages: [Home]"]

/-- The name of the template that is used if none is named. -/
def standardName : String := "default"

def standard : Template where
  name := standardName
  description := "Every section with the built-in defaults, ready to edit"
  lines := standardLines

def minimal : Template where
  name := "minimal"
  description := "Layout and features only; everything else uses defaults"
  lines := minimalLines

def all : List Template :=
  [standard, minimal]

def find? (name : String) : Option Template :=
  all.find? (·.name == name)

end Template

end GapAudit
