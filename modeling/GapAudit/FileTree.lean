import GapAudit.Path

/-!
Trees of files as data: files with their bytes, folders and symbolic links, looked up by paths that
may pass through links.
-/

namespace GapAudit

/-- Why an entry of a tree is not reached, made or changed. -/
inductive AccessError where
  | missing
  | present
  | notFolder
  | isFolder
  | manyLinks
  deriving DecidableEq, Repr

/-- The reason as a system words it. -/
def AccessError.message : AccessError → String
  | .missing => "No such file or directory (os error 2)"
  | .present => "File exists (os error 17)"
  | .notFolder => "Not a directory (os error 20)"
  | .isFolder => "Is a directory (os error 21)"
  | .manyLinks => "Too many levels of symbolic links (os error 40)"

inductive FileTree where
  | file (content : ByteArray)
  | folder (entries : List (String × FileTree))
  | link (target : String)

namespace FileTree

def empty : FileTree :=
  .folder []

def child? (name : String) : FileTree → Option FileTree
  | .folder entries => entries.lookup name
  | _ => none

/-- The entry at a place, reached through folders only. -/
def at? (tree : FileTree) : (place : List String) → Option FileTree
  | [] => some tree
  | name :: rest => (tree.child? name).bind fun entry => entry.at? rest

/-- What entries hand down to the first of them and to the others holds of the entry that is found
under a name. -/
theorem of_lookup {P : List (String × FileTree) → Prop} {Q : String → FileTree → Prop}
    (hcons : ∀ name entry rest, P ((name, entry) :: rest) → Q name entry ∧ P rest)
    {entries : List (String × FileTree)} {name : String} {entry : FileTree} (h : P entries)
    (hlookup : entries.lookup name = some entry) : Q name entry := by
  induction entries with
  | nil => cases hlookup
  | cons head rest ih =>
    obtain ⟨key, inside⟩ := head
    obtain ⟨hhead, hrest⟩ := hcons key inside rest h
    rw [List.lookup_cons] at hlookup
    split at hlookup
    next heq =>
      rw [beq_iff_eq.mp heq]
      cases hlookup
      exact hhead
    · exact ih hrest hlookup

theorem at?_cons_eq_some_iff {tree entry : FileTree} {name : String} {rest : List String} :
    tree.at? (name :: rest) = some entry ↔
      ∃ entries child, tree = .folder entries ∧ entries.lookup name = some child ∧
        child.at? rest = some entry := by
  rw [at?, Option.bind_eq_some_iff]
  constructor
  · rintro ⟨child, hchild, hrest⟩
    cases tree with
    | file content => cases hchild
    | link target => cases hchild
    | folder entries => exact ⟨entries, child, rfl, hchild, hrest⟩
  · rintro ⟨entries, child, rfl, hchild, hrest⟩
    exact ⟨child, hchild, hrest⟩

/-- Whether a path ends in a separator and so can only name a folder. -/
def namesFolder (path : String) : Bool :=
  let pieces := Text.splitAt '/' path.toList
  pieces.length > 1 && (pieces.getLast? == some [] || pieces.getLast? == some ['.'])

def holdsFolder (tree : FileTree) (place : List String) : Bool :=
  match tree.at? place with
  | some (.folder _) => true
  | _ => false

/-- Where a list of components leads from a place. `follow` says where a link at a place leads. -/
def walkTo (tree : FileTree) (follow : List String → String → Except AccessError (List String)) :
    (place components : List String) → Except AccessError (List String)
  | place, [] => .ok place
  | place, name :: rest =>
    match tree.at? place with
    | some (.folder entries) =>
      if name == "." then walkTo tree follow place rest
      -- links are followed before, so this leads out of the folder that a link leads to
      else if name == ".." then walkTo tree follow place.dropLast rest
      else
        match entries.lookup name with
        | none => .error .missing
        | some (.link target) =>
          match follow place target with
          | .ok place => walkTo tree follow place rest
          | .error e => .error e
        | some _ => walkTo tree follow (place ++ [name]) rest
    | _ => .error .notFolder

/-- Where a path leads from a place if `follow` says where links lead. -/
def walkPath (tree : FileTree) (follow : List String → String → Except AccessError (List String))
    (place : List String) (path : String) : Except AccessError (List String) :=
  match tree.walkTo follow (if Path.isAbsolute path then [] else place) (Path.components path) with
  | .ok place =>
    if namesFolder path && !tree.holdsFolder place then .error .notFolder else .ok place
  | .error e => .error e

/-- Where a path leads from a place if at most `links` links are nested on the way. -/
def resolveWith (tree : FileTree) : (links : Nat) → (place : List String) → (path : String) →
    Except AccessError (List String)
  | 0 => tree.walkPath fun _ _ => .error .manyLinks
  | links + 1 => tree.walkPath (resolveWith tree links)

/-- The number of links that may be nested in one look-up. -/
def linkLimit : Nat := 40

def resolve (tree : FileTree) (path : String) : Except AccessError (List String) :=
  resolveWith tree linkLimit [] path

def entry? (tree : FileTree) (path : String) : Option FileTree :=
  (tree.resolve path).toOption.bind tree.at?

def isFile (tree : FileTree) (path : String) : Bool :=
  match tree.entry? path with
  | some (.file _) => true
  | _ => false

def isFolder (tree : FileTree) (path : String) : Bool :=
  match tree.entry? path with
  | some (.folder _) => true
  | _ => false

def pathExists (tree : FileTree) (path : String) : Bool :=
  (tree.entry? path).isSome

def bytes? (tree : FileTree) (path : String) : Option ByteArray :=
  match tree.entry? path with
  | some (.file content) => some content
  | _ => none

def text? (tree : FileTree) (path : String) : Option String :=
  (tree.bytes? path).bind String.fromUTF8?

mutual

def size : FileTree → Nat
  | .file _ => 1
  | .link _ => 1
  | .folder entries => sizeAll entries + 1

def sizeAll : List (String × FileTree) → Nat
  | [] => 0
  | (_, entry) :: rest => entry.size + sizeAll rest

end

end FileTree

end GapAudit
