import GapAudit.Project

/-!
Services and the types they work with: which services have neither a file of types of a matching
name nor types of their own.
-/

namespace GapAudit.Services

open Text

/-- A letter without regard to case; the long s is an s. -/
def foldLetter (c : Char) : Char :=
  if c == 'ſ' then 's' else c.toLower

/-- Whether a text is one of the words that end the names of services, in any mixture of cases. -/
def isServiceWord (s : List Char) : Bool :=
  ["service", "services", "api", "apis"].contains (String.ofList (s.map foldLetter))

/-- Whether a text is such a word, perhaps with a separator before it. -/
def isServiceEnding : List Char → Bool
  | [] => false
  | c :: s =>
    ((c == '.' || c == '_' || c == '-') && isServiceWord s) || isServiceWord (c :: s)

/-- The text up to the first place from which on it is the ending of a service. -/
def beforeEnding : List Char → List Char
  | [] => []
  | c :: s => if isServiceEnding (c :: s) then [] else c :: beforeEnding s

/-- What a service is about: its name without the ending of services, unless nothing is left. -/
def base (stem : List Char) : List Char :=
  let base := beforeEnding stem
  if base.isEmpty then stem else base

/-- A text without an ending, if it has it. -/
def beforeWord? (ending s : List Char) : Option (List Char) :=
  (after? ending.reverse s.reverse).map List.reverse

/-- The name that a file of types is about: its stem without the ending of such files. -/
def typesBase (stem : List Char) : List Char :=
  ((beforeWord? ['.', 't', 'y', 'p', 'e', 's'] stem).or (beforeWord? ['.', 'd'] stem)).getD stem

/-- Whether the stem of a file of types fits what a service is about. -/
def matchesTypes (service stem : List Char) : Bool :=
  let s := lower service
  let t := typesBase (lower stem)
  s == t || s ++ ['s'] == t || t ++ ['s'] == s ||
    (!t.isEmpty && (occursIn t s || occursIn s t))

def declaresTypes (project : Project) (path : String) : Bool :=
  match project.text? path with
  | some source => !(project.facts path source.toList).types.isEmpty
  | none => false

/-- The service files without types, in the order of their paths. -/
def untyped (project : Project) : List String :=
  let layout := project.config.layout
  let stems := (project.walk layout.typesDir Walk.sources).map fun path => (Path.stem path).toList
  (project.walk layout.servicesDir Walk.sources).filter fun path =>
    Path.baseName path != "index" &&
      !(stems.any (matchesTypes (base (Path.stem path).toList))) && !declaresTypes project path

end GapAudit.Services
