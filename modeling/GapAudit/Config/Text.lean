import GapAudit.Config.Reading
import GapAudit.Decimal.Reading
import GapAudit.FileTree
import GapAudit.Text.Blank
import GapAudit.Yaml.Node

/-!
Configurations written in YAML.
-/

namespace GapAudit

namespace Yaml

/-- A node with the document that its aliases refer to. -/
structure View where
  document : Document
  node : Node

namespace View

def moveTo (view : View) (node : Node) : View :=
  { view with node }

/-- The node itself, or the one that it refers to. -/
def target (view : View) : Node :=
  match view.node with
  | .reference number => (view.document.target? number).getD view.node
  | node => node

/-- The text of a scalar of any form. -/
def text? (view : View) : Option String :=
  match view.target with
  | .scalar text _ _ => some text
  | _ => none

/-- The text of a scalar that may denote a value of the given kind: a plain one, or a literal one
tagged with the kind. -/
def valueText? (view : View) (kind : String) : Option String :=
  match view.target with
  | .scalar text .plain _ => some text
  | .scalar text .literal tag =>
    if tag == some ("tag:yaml.org,2002:" ++ kind) then some text else none
  | _ => none

def isMissing (view : View) : Bool :=
  match view.target with
  | .scalar text .plain _ => text.isEmpty
  | _ => false

/-- The items of a list; a missing value has none. -/
def list? (view : View) : Option (List View) :=
  match view.target with
  | .list items => some (items.map view.moveTo)
  | _ => if view.isMissing then some [] else none

/-- The values of the named fields of a mapping, whose unknown entries are passed over and whose
known ones may not be repeated. All keys must be texts. A missing value has no fields. -/
def fields? (names : List String) (view : View) : Option (List (Option View)) :=
  match view.target with
  | .mapping entries => do
    let entries ← entries.mapM fun (key, value) =>
      (view.moveTo key).text?.map (·, view.moveTo value)
    names.mapM fun name =>
      match entries.filter (·.1 == name) with
      | [] => some none
      | [(_, value)] => some (some value)
      | _ => none
  | _ => if view.isMissing then some (names.map fun _ => none) else none

def boolOfText? (text : String) : Option Bool :=
  if ["true", "True", "TRUE"].contains text then some true
  else if ["false", "False", "FALSE"].contains text then some false
  else none

/-- The number that a text denotes: a decimal one that is not too large for a double, an infinity or
no number at all. -/
def numberOfText? (text : String) : Option Float :=
  let s := text.toList
  let unsigned := (Text.after? ['+'] s).getD s
  if unsigned.length < s.length && unsigned.head?.any ['+', '-'].contains then none
  else if [".inf", ".Inf", ".INF"].contains (String.ofList unsigned) then some (1 / 0)
  else if ["-.inf", "-.Inf", "-.INF"].contains text then some (-1 / 0)
  else if [".nan", ".NaN", ".NAN"].contains text then some (0 / 0)
  else (Decimal.read? unsigned).filter Float.isFinite

end View

def readers : ValueReader View where
  fields := View.fields?
  list := View.list?
  text := View.text?
  number := fun view => view.valueText? "float" >>= View.numberOfText?
  bool := fun view => view.valueText? "bool" >>= View.boolOfText?

end Yaml

namespace Config

/-- The configuration that a text denotes. A blank text stands for a configuration without
settings. -/
def parse? (text : String) : Option Config :=
  if Text.allBlank text.toList then some {}
  else do
    let document ← Yaml.Document.parse? text
    Yaml.readers.config ⟨document, document.root⟩

/-- The names of configuration files in the order of preference. -/
def fileNames : List String :=
  ["gapcheck.yaml", ".gapcheck.yaml", "gapcheck.yml"]

/-- The configuration file in the root of a project, if there is one. -/
def discover? (tree : FileTree) (root : String) : Option String :=
  (fileNames.map (Path.join root)).find? tree.isFile

/-- Why no configuration was loaded: the file that denotes none. -/
structure LoadError where
  path : String
  deriving DecidableEq, Repr

/-- The complaint, without what is wrong in the file. -/
def LoadError.message (e : LoadError) : String :=
  s!"parsing config {e.path}"

/-- The configuration for a project: of the given file, of the file in its root, or without any
settings. A relative path of the given file starts at the folder `here`. -/
def load (tree : FileTree) (here root : String) (explicit : Option String) :
    Except LoadError Config :=
  match explicit.or (discover? tree root) with
  | none => .ok {}
  | some path =>
    match tree.text? (Path.join here path) >>= parse? with
    | some config => .ok config
    | none => .error ⟨path⟩

end Config

end GapAudit
