import GapAudit.Json.Reader
import GapAudit.Report.Codec
import GapAudit.Tools

/-!
The manifest of a project: its name and the packages it declares.
-/

namespace GapAudit

mutual

/-- Whether a value can be kept: its texts can be read, its numbers are finite, and at most `levels`
lists and objects are nested in each other. -/
def Json.isSound (levels : Nat) : Json → Bool
  | .null | .bool _ => true
  | .number (.whole _) => true
  | .number (.real x) => x.isFinite
  | .string s => s.isSome
  | .array items => 0 < levels && areSound (levels - 1) items
  | .object members => 0 < levels && membersSound (levels - 1) members

def Json.areSound (levels : Nat) : List Json → Bool
  | [] => true
  | item :: rest => item.isSound levels && areSound levels rest

def Json.membersSound (levels : Nat) : List (Option String × Json) → Bool
  | [] => true
  | (key, value) :: rest => key.isSome && value.isSound levels && membersSound levels rest

end

/-- What a manifest says: the name of the project, if it has one, and the packages declared for use
and for development. -/
structure Manifest where
  name : Option String := none
  dependencies : List String := []
  devDependencies : List String := []
  deriving DecidableEq, Repr

/-- Why there is no manifest. -/
inductive ManifestError where
  | unreadable (path : String)
  | invalid (path complaint : String)
  deriving DecidableEq, Repr

namespace ManifestError

def message : ManifestError → String
  | .unreadable path => s!"reading manifest {path}"
  | .invalid path _ => s!"manifest {path} is not valid JSON"

/-- The root cause. -/
def cause : ManifestError → String
  | .unreadable _ => "stream did not contain valid UTF-8"
  | .invalid _ complaint => complaint

end ManifestError

namespace Manifest

/-- How many levels the value of a declared package may have. With the manifest and the section
around it that makes 127. -/
def declarationLevels : Nat := 125

/-- The declared packages of a section that may be missing. Their values do not matter. -/
def sectionOfJson? : Option Json → Option (List String)
  | none => some []
  | some value =>
    (value.toKeyed? fun v => if v.isSound declarationLevels then some () else none).map Keyed.keys

/-- A name that may be missing or null. -/
def nameOfJson? : Option Json → Option (Option String)
  | none | some .null => some none
  | some value => value.toString?.map some

def ofJson? (value : Json) : Option Manifest := do
  match ← value.toFields? ["name", "dependencies", "devDependencies"] with
  | [name, dependencies, devDependencies] =>
    return {
      name := ← nameOfJson? name
      dependencies := ← sectionOfJson? dependencies
      devDependencies := ← sectionOfJson? devDependencies }
  | _ => none

/-- The manifest at a path. Where no file is, nothing is declared. -/
def load (tools : Tools) (tree : FileTree) (path : String) : Except ManifestError Manifest :=
  if !tree.isFile path then .ok {}
  else
    match tree.text? path with
    | none => .error (.unreadable path)
    | some text =>
      match Json.parse? text >>= ofJson? with
      | none => .error (.invalid path (tools.jsonComplaint text))
      | some manifest => .ok manifest

def declared (manifest : Manifest) : List String :=
  manifest.dependencies ++ manifest.devDependencies

end Manifest

end GapAudit
