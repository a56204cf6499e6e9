import GapAudit.Text.Scan

/-!
Paths of files: their components, their names and extensions, and how they are joined, compared and
made relative to each other.
-/

namespace GapAudit.Path

open Text

/-- A component of a path with the text between it and the one before: separators, and single points
that mean nothing there. -/
structure Part where
  gap : List Char
  text : List Char
  deriving DecidableEq, Repr

def isAbsolute (path : String) : Bool :=
  path.toList.head? == some '/'

/-- The parts that pieces between separators give. A point is a component only at the start of a
relative path. -/
def partsOf (pointCounts : Bool) (gap : List Char) : List (List Char) → List Part
  | [] => []
  | piece :: pieces =>
    if piece.isEmpty || (piece == ['.'] && !pointCounts) then
      partsOf false (gap ++ piece ++ ['/']) pieces
    else
      ⟨gap, piece⟩ :: partsOf false ['/'] pieces

def parts (path : String) : List Part :=
  partsOf (!isAbsolute path) [] (splitAt '/' path.toList)

def components (path : String) : List String :=
  (parts path).map fun part => String.ofList part.text

/-- Two paths one after the other; an absolute one stands alone. -/
def join (base path : String) : String :=
  if isAbsolute path || base.isEmpty then path
  else if base.toList.getLast? == some '/' then base ++ path
  else base ++ "/" ++ path

/-- The last component, if it names something. -/
def fileName? (path : String) : Option String :=
  match (components path).getLast? with
  | some name => if name == "." || name == ".." then none else some name
  | none => none

/-- The last component, or the empty text. -/
def fileName (path : String) : String :=
  (fileName? path).getD ""

/-- A file name before and after its last point. A point at the start does not count. -/
def splitExtension (name : List Char) : List Char × Option (List Char) :=
  let extension := (name.reverse.takeWhile (· != '.')).reverse
  let stem := name.take (name.length - extension.length - 1)
  if extension.length == name.length || stem.isEmpty then (name, none) else (stem, some extension)

def extension? (path : String) : Option String :=
  (fileName? path).bind fun name => (splitExtension name.toList).2.map String.ofList

def stem (path : String) : String :=
  String.ofList (splitExtension (fileName path).toList).1

/-- The file name up to its first point. -/
def baseName (path : String) : String :=
  String.ofList ((fileName path).toList.takeWhile (· != '.'))

/-- What is left of parts behind those of a base. -/
def partsAfter? : (base parts : List Part) → Option (List Part)
  | [], parts => some parts
  | _ :: _, [] => none
  | b :: base, p :: parts => if b.text == p.text then partsAfter? base parts else none

def textOf (parts : List Part) : List Char :=
  parts.flatMap fun part => part.gap ++ part.text

def parent (path : String) : String :=
  let above := (parts path).dropLast
  if above.isEmpty && isAbsolute path then "/" else String.ofList (textOf above)

/-- The rest of a path behind a base that it starts with, component by component. -/
def after? (base path : String) : Option String :=
  if isAbsolute base != isAbsolute path then
    if base.isEmpty then
      some (if (parts path).isEmpty then "/" else String.ofList (textOf (parts path)))
    else none
  else
    (partsAfter? (parts base) (parts path)).map fun rest =>
      match rest with
      | [] => ""
      | first :: more =>
        if !isAbsolute base && (parts base).isEmpty then String.ofList (textOf (first :: more))
        else String.ofList (first.text ++ textOf more)

/-- Whether a path starts with a base, component by component. -/
def isUnder (base path : String) : Bool :=
  (after? base path).isSome

/-- The path behind a base with forward slashes; a path elsewhere stays as it is. -/
def relativeTo (base path : String) : String :=
  match after? base path with
  | some rest => String.ofList (rest.toList.map fun c => if c == '\\' then '/' else c)
  | none => path

/-- The rank of a component: a point before two points before names. -/
def rank (component : String) : Nat :=
  if component == "." then 0 else if component == ".." then 1 else 2

/-- The order of two lists of components: the first difference decides. -/
def componentsBefore : List String → List String → Bool
  | _, [] => false
  | [], _ :: _ => true
  | a :: as, b :: bs =>
    if a == b then componentsBefore as bs
    else rank a < rank b || (rank a == rank b && a < b)

/-- Whether a path stands before another: absolute ones first, then component by component. -/
def isBefore (a b : String) : Bool :=
  if isAbsolute a != isAbsolute b then isAbsolute a
  else componentsBefore (components a) (components b)

def sort (paths : List String) : List String :=
  paths.mergeSort fun a b => !isBefore b a

end GapAudit.Path
