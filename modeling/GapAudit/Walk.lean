import GapAudit.FileTree

/-!
Walks over a tree of files: which files below a root are taken, and in which order.
-/

namespace GapAudit

def vendorFolders : List String :=
  ["node_modules", "vendor", "dist", "build", ".next", "out", "coverage"]

def testFolders : List String :=
  ["__tests__", "__test__", "test", "tests", "__mocks__"]

def fixtureFolders : List String :=
  ["__fixtures__", "fixtures", "testdata"]

def componentExtensions : List String :=
  ["tsx", "jsx"]

def sourceExtensions : List String :=
  ["ts", "tsx", "js", "jsx", "mjs", "cjs"]

/-- Whether a file name marks a test, a specification or a story. -/
def isTestFile (path : String) : Bool :=
  [".test.", ".spec.", ".stories."].any fun mark =>
    Text.occursIn mark.toList (Path.fileName path).toList

def inTestFolder (path : String) : Bool :=
  (Path.components path).any testFolders.contains

/-- What a walk takes and what it passes over. Folders whose names start with a point are always
passed over. -/
structure Walk where
  extensions : List String
  skippedFolders : List String
  skipTestFiles : Bool

namespace Walk

/-- Components, without vendor code and tests. -/
def components : Walk :=
  ⟨componentExtensions, vendorFolders ++ testFolders, true⟩

/-- Sources, without vendor code, tests and test data. -/
def sources : Walk :=
  ⟨sourceExtensions, vendorFolders ++ testFolders ++ fixtureFolders, true⟩

/-- Sources and tests, without vendor code. -/
def tests : Walk :=
  ⟨sourceExtensions, vendorFolders, false⟩

def skipsFolder (w : Walk) (name : String) : Bool :=
  name.toList.head? == some '.' || w.skippedFolders.contains name

def takesFile (w : Walk) (path : String) : Bool :=
  w.extensions.contains ((Path.extension? path).getD "") &&
    !(w.skipTestFiles && isTestFile path)

/-- A folder on the way: its path as walked and its place in the tree, and the places of the folders
around it. -/
structure Position where
  path : String
  place : List String
  around : List (List String)

mutual

/-- The files that a walk takes in a folder with the given entries. `enter` walks a folder that a
link leads to. -/
def inFolder (w : Walk) (enter : Position → String → List String) (here : Position) :
    List (String × FileTree) → List String
  | [] => []
  | (name, entry) :: rest => inEntry w enter here name entry ++ inFolder w enter here rest

/-- The files that a walk takes at an entry of a folder. -/
def inEntry (w : Walk) (enter : Position → String → List String) (here : Position) (name : String) :
    FileTree → List String
  | .file _ =>
    let path := Path.join here.path name
    if w.takesFile path then [path] else []
  | .link _ => enter here name
  | .folder entries =>
    if w.skipsFolder name then []
    else
      let place := here.place ++ [name]
      inFolder w enter ⟨Path.join here.path name, place, place :: here.around⟩ entries

end

/-- The files that a walk takes where a link of a folder leads. A link to a folder around it is not
followed. -/
def throughLink (w : Walk) (tree : FileTree) : (links : Nat) → Position → String → List String
  | 0, _, _ => []
  | links + 1, here, name =>
    let path := Path.join here.path name
    match tree.resolveWith FileTree.linkLimit here.place name with
    | .error _ => []
    | .ok place =>
      match tree.at? place with
      | some (.file _) => if w.takesFile path then [path] else []
      | some (.folder entries) =>
        if here.around.contains place || w.skipsFolder name then []
        else inFolder w (throughLink w tree links) ⟨path, place, place :: here.around⟩ entries
      | _ => []

/-- The files that a walk takes below a root, in the order of paths. A root that is no folder has
none. -/
def collect (w : Walk) (tree : FileTree) (root : String) : List String :=
  match tree.resolve root with
  | .error _ => []
  | .ok place =>
    match tree.at? place with
    | some (.folder entries) =>
      Path.sort (inFolder w (throughLink w tree tree.size) ⟨root, place, [place]⟩ entries)
    | _ => []

end Walk

end GapAudit
