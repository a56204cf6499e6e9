import GapAudit.Project
import GapAudit.Gap
import GapAudit.Text.Word

/-!
Routes: which pages of a project its application root imports and shows.
-/

namespace GapAudit

open Arithmetic Text

/-- How a page is wired into the application root. -/
structure PageRoute where
  name : String
  file : String
  imported : Bool
  shown : Bool
  deriving DecidableEq, Repr

def PageRoute.isRouted (page : PageRoute) : Bool :=
  page.imported && page.shown

/-- The routes that the application root declares, and the pages that need one. -/
structure Routes where
  declared : List String
  pages : List PageRoute
  deriving DecidableEq, Repr

namespace Routes

def unrouted (routes : Routes) : List PageRoute :=
  routes.pages.filter fun page => !page.isRouted

/-- The share of pages that have a route in whole percent, and all where no page needs one. -/
def coverage {α : Type} [Arithmetic α] (routes : Routes) : α :=
  if routes.pages.isEmpty then 100
  else round (ofNat (routes.pages.countP (·.isRouted)) / ofNat routes.pages.length * 100)

/-- The variable of a declaration at the head of a text that is bound to a page loaded on demand,
and what follows the opening bracket. -/
def lazyBinding? (before : Option Char) (s : List Char) : Option (List Char × List Char) := do
  let s ← wordAfter? before [['c', 'o', 'n', 's', 't'], ['l', 'e', 't'], ['v', 'a', 'r']] s
  let (name, s) ← nameAt? (← afterBlanks? s)
  let s ← after? ['='] (trimStart s)
  let s := trimStart s
  let s := (after? ['R', 'e', 'a', 'c', 't', '.'] s).getD s
  let s ← after? ['l', 'a', 'z', 'y'] s
  let s ← after? ['('] (trimStart s)
  some (name, s)

/-- Whether a source binds a name: by an import, or to a page loaded on demand. -/
def binds (facts : Facts) (source name : List Char) : Bool :=
  (facts.imports.any fun i => i.names.contains (String.ofList name)) ||
    (scan lazyBinding? source).contains name

/-- What imports leave of a text of which the first `position` bytes are gone. -/
def withoutImportsFrom : (position : Nat) → List Char → List Import → List Char
  | _, s, [] => s
  | position, s, i :: more =>
    let start := max position i.start
    let stop := max start i.stop
    takeBytes (start - position) s ++
      withoutImportsFrom stop (dropBytes (stop - position) s) more

/-- A text without its imports. -/
def withoutImports (source : List Char) (facts : Facts) : List Char :=
  withoutImportsFrom 0 source facts.imports

/-- Whether a text starts with a name and goes on with a closing brace behind blanks. -/
def startsBraced (name s : List Char) : Bool :=
  match after? name s with
  | some rest => (trimStart rest).head? == some '\x7d'
  | none => false

/-- Whether a text starts with blanks, a name, blanks again and a closing brace. -/
def goesOnBraced (name : List Char) : List Char → Bool
  | [] => startsBraced name []
  | c :: s => startsBraced name (c :: s) || (isBlank c && goesOnBraced name s)

/-- Whether a text starts with the opening of a tag, or with a name alone in braces. -/
def startsUse (name s : List Char) : Bool :=
  match s with
  | '<' :: rest =>
    match after? name rest with
    | some (c :: _) => isBlank c || c == '/' || c == '>'
    | _ => false
  | '\x7b' :: rest => goesOnBraced name rest
  | _ => false

/-- Whether a source shows a page: as an element, or by its name in the text outside imports. -/
def shows (facts : Facts) (body name : List Char) : Bool :=
  (facts.elements.any fun e => e.tag == String.ofList name) ||
    occursWhere (fun _ s => startsUse name s) body

/-- The pages of a project that need a route, with their names. -/
def pagesOf (project : Project) : List (String × String) :=
  ((project.walk project.config.layout.pagesDir Walk.components).map fun path =>
    (Path.baseName path, path)).filter fun (name, _) =>
      !project.config.skeleton.routeExclusions.contains name

/-- The routes of a project. An application root that cannot be read is as good as an empty one. -/
def ofProject (project : Project) : Routes :=
  let root := project.path project.config.layout.appRoot
  let source := ((project.text? root).getD "").toList
  let facts := project.facts root source
  let body := withoutImports source facts
  { declared :=
      (facts.elements.filter fun e => e.tag == "Route").filterMap (·.attributeValue? "path")
    pages := (pagesOf project).map fun (name, path) => {
      name
      file := project.relative path
      imported := binds facts source name.toList
      shown := shows facts body name.toList } }

/-- A name in lower case with hyphens for underscores and blanks, and before each capital that
follows a small letter or a digit; `small` says whether one came just before. -/
def kebabFrom : (small : Bool) → List Char → List Char
  | _, [] => []
  | small, c :: s =>
    if c == '_' || c == ' ' then '-' :: kebabFrom false s
    else if isAsciiUpper c then
      let rest := c.toLower :: kebabFrom false s
      if small then '-' :: rest else rest
    else c :: kebabFrom (isAsciiLower c || isAsciiDigit c) s

def kebabCase (name : String) : String :=
  String.ofList (kebabFrom false name.toList)

def snippet (page : String) : String :=
  s!"<Route path=\"/{kebabCase page}\" element=\x7b<{page} />\x7d />"

/-- How bad a coverage is that is not complete. -/
def severity {α : Type} [Arithmetic α] (coverage : α) : Severity :=
  if lt coverage 50 then .critical
  else if lt coverage 80 then .high
  else .medium

/-- The gap of pages without a route, if there are any. -/
def gap? (routes : Routes) (appRoot : String) : Option Gap :=
  let unrouted := routes.unrouted
  let coverage : Float := routes.coverage
  let names := ", ".intercalate (unrouted.map (·.name))
  let snippets := " ".intercalate (unrouted.map fun page => snippet page.name)
  if unrouted.isEmpty then none
  else
    some {
      id := "structure-route-coverage"
      severity := severity coverage
      category := "structure"
      description :=
        s!"Route coverage is {text 0 coverage}%: {unrouted.length} page(s) are not imported and " ++
          s!"routed in {appRoot}: {names}"
      recommendation := s!"Import each page in {appRoot} and add: {snippets}"
      affectedFiles := unrouted.map (·.file)
      estimatedEffort := some .low }

end Routes

end GapAudit
