import GapAudit.FileTree

/-!
Changes to trees of files: entries put at places, folders made along paths, files written, and the
files in which two trees differ.
-/

namespace GapAudit.FileTree

/-- A list of entries with the entry under a name changed; a new name comes last. -/
def changeEntry (name : String) (change : Option FileTree → FileTree) :
    List (String × FileTree) → List (String × FileTree)
  | [] => [(name, change none)]
  | entry :: rest =>
    if entry.1 == name then (name, change (some entry.2)) :: rest
    else entry :: changeEntry name change rest

/-- The tree with an entry put at a place. Folders on the way are made where nothing stands, and
what stands in the way is replaced. -/
def put (tree entry : FileTree) (place : List String) : FileTree :=
  match place with
  | [] => entry
  | name :: rest =>
    let entries :=
      match tree with
      | .folder entries => entries
      | _ => []
    .folder (changeEntry name (fun old => (old.getD empty).put entry rest) entries)

/-- The tree with a folder at a place, where nothing stood, and folders on the way to it. -/
def putFolder (tree : FileTree) (place : List String) : FileTree :=
  match place with
  | [] => tree
  | name :: rest =>
    match tree with
    | .folder entries =>
      .folder (changeEntry name (fun old => (old.getD empty).putFolder rest) entries)
    | tree => tree

/-- The places and contents of all files below a place that are reached without links. -/
def files : (place : List String) → FileTree → List (List String × ByteArray)
  | place, .file content => [(place, content)]
  | _, .link _ => []
  | place, .folder entries => filesOf place entries
where
  filesOf (place : List String) : List (String × FileTree) → List (List String × ByteArray)
    | [] => []
    | (name, entry) :: rest => files (place ++ [name]) entry ++ filesOf place rest

/-- The files of a tree that another does not have, or has with other contents. -/
def changedFiles (old new : FileTree) : List (List String × ByteArray) :=
  (new.files []).filter fun file =>
    match old.at? file.1 with
    | some (.file content) => content != file.2
    | _ => true

/-- The tree in which folders are made along components from a place on, where nothing stands, and
what prevented it. A file, and a link that leads nowhere, stand in the way; `made` tells whether a
folder was made before. -/
def makeFoldersFrom (made : Bool) : (place components : List String) → FileTree →
    FileTree × Except AccessError Unit
  | place, [], tree => (tree, if tree.holdsFolder place then .ok () else .error .present)
  | place, name :: rest, tree =>
    match tree.walkTo (resolveWith tree linkLimit) place [name] with
    | .ok next =>
      if !rest.isEmpty && !tree.holdsFolder next then
        (tree, .error (if made then .present else .notFolder))
      else makeFoldersFrom made next rest tree
    | .error e =>
      if (tree.at? (place ++ [name])).isSome then
        (tree, .error (if made || rest.isEmpty || e == .missing then .present else e))
      else makeFoldersFrom true (place ++ [name]) rest (tree.putFolder (place ++ [name]))

/-- The tree in which an absolute path leads to a folder, made where nothing stands, and what
prevented it. -/
def makeFolders (tree : FileTree) (path : String) : FileTree × Except AccessError Unit :=
  makeFoldersFrom false [] (Path.components path) tree

/-- Whether a path ends in a component that stands for the folder before it or the one around it. -/
def endsInPoints (path : String) : Bool :=
  match ((Text.splitAt '/' path.toList).filter (!·.isEmpty)).getLast? with
  | some piece => piece == ['.'] || piece == ['.', '.']
  | none => true

/-- The place of the file that writing to a path makes or replaces: where the path leads, and where
its last link says if nothing stands there. `follow` says so for a link. -/
def writePlaceBy (tree : FileTree)
    (follow : List String → String → Except AccessError (List String))
    (place : List String) (path : String) : Except AccessError (List String) := do
  let start := if Path.isAbsolute path then [] else place
  if endsInPoints path then
    -- what is wrong on the way is reported before what is wrong with the end
    let _ ← tree.resolveWith linkLimit place path
    throw .isFolder
  let components := Path.components path
  let above ← tree.walkTo (resolveWith tree linkLimit) start components.dropLast
  let name := components.getLastD ""
  if !tree.holdsFolder above then throw .notFolder
  if namesFolder path then throw .isFolder
  match tree.at? (above ++ [name]) with
  | some (.folder _) => throw .isFolder
  | some (.link target) => follow above target
  | _ => return above ++ [name]

/-- The place of the file that writing to a path makes or replaces, if at most `links` links lead
from one to the next. -/
def writePlaceWith (tree : FileTree) : (links : Nat) → (place : List String) → (path : String) →
    Except AccessError (List String)
  | 0 => tree.writePlaceBy fun _ _ => .error .manyLinks
  | links + 1 => tree.writePlaceBy (writePlaceWith tree links)

/-- The tree in which the file that an absolute path leads to has the given content. -/
def write (tree : FileTree) (path : String) (content : ByteArray) : Except AccessError FileTree :=
  (writePlaceWith tree linkLimit [] path).map fun place => tree.put (.file content) place

end GapAudit.FileTree
