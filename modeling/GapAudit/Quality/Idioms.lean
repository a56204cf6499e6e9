import GapAudit.Text.Word

/-!
Signs in a source text, found without parsing it: that errors are handled, that something is shown
while data loads, and that a file name follows a convention.
-/

namespace GapAudit.Quality

open Text

/-- Whether a block that may fail starts here. -/
def startsTry (before : Option Char) (s : List Char) : Bool :=
  !before.any isWordChar &&
    match after? ['t', 'r', 'y'] s with
    | some rest => (trimStart rest).head? == some '\x7b'
    | none => false

/-- Whether a word stands here, not joined to its neighbours. -/
def startsWord (word : List Char) (before : Option Char) (s : List Char) : Bool :=
  !before.any isWordChar &&
    match after? word s with
    | some rest => !rest.head?.any isWordChar
    | none => false

/-- What follows the opening bracket of a `catch`. -/
def afterCatch? (s : List Char) : Option (List Char) :=
  (after? ['c', 'a', 't', 'c', 'h'] s).bind fun rest => after? ['('] (trimStart rest)

/-- Whether a `catch` starts here: a method with any argument, or a clause whose parameter has an
`e` in its name. -/
def startsCatch (before : Option Char) (s : List Char) : Bool :=
  match s with
  | '.' :: rest => (afterCatch? rest).isSome
  | s =>
    !before.any isWordChar &&
      match afterCatch? s with
      | some rest =>
        let (name, rest) := spanWhile isWordChar (trimStart rest)
        name.contains 'e' &&
          (match trimStart rest with
          | c :: _ => c == ':' || c == ')'
          | [] => false)
      | none => false

def handlesErrors (source : List Char) : Bool :=
  occursWhere startsTry source || occursWhere (startsWord "ErrorBoundary".toList) source ||
    occursWhere startsCatch source

/-- Whether a text speaks of loading, with or without a capital. -/
def mentionsLoading (s : List Char) : Bool :=
  occursIn "loading".toList s || occursIn "Loading".toList s

/-- Whether a declaration of something about loading starts here: by a pattern that names it before
any value, or by its own name. -/
def startsLoadingDeclaration (before : Option Char) (s : List Char) : Bool :=
  !before.any isWordChar &&
    match afterAny? [['c', 'o', 'n', 's', 't'], ['l', 'e', 't'], ['v', 'a', 'r']] s with
    | none => false
    | some rest =>
      match trimStart rest with
      | [] => false
      | c :: rest =>
        if c == '[' || c == '\x7b' then
          mentionsLoading (rest.takeWhile fun c => c != '=' && c != ';')
        else
          let (name, rest) := spanWhile isWordChar (c :: rest)
          mentionsLoading name &&
            (match trimStart rest with
            | c :: _ => c == '=' || c == ':'
            | [] => false)

/-- Whether a name about loading starts here that decides between two cases. -/
def startsLoadingChoice (before : Option Char) (s : List Char) : Bool :=
  !before.any isWordChar &&
    let (name, rest) := spanWhile isWordChar s
    mentionsLoading name &&
      (afterAny? [['?'], ['&', '&'], ['|', '|']] (trimStart rest)).isSome

/-- Whether a condition starts here whose first name is about loading. -/
def startsLoadingCondition (before : Option Char) (s : List Char) : Bool :=
  !before.any isWordChar &&
    match (after? ['i', 'f'] s).bind fun rest => after? ['('] (trimStart rest) with
    | none => false
    | some rest =>
      let rest := trimStart rest
      let rest := trimStart ((after? ['!'] rest).getD rest)
      mentionsLoading (rest.takeWhile isWordChar)

/-- Whether an element starts here that shows something else while its content loads. -/
def startsSuspense (s : List Char) : Bool :=
  match s with
  | '<' :: rest =>
    let rest := (after? ['R', 'e', 'a', 'c', 't', '.'] rest).getD rest
    match after? "Suspense".toList rest with
    | some rest => !rest.head?.any isWordChar
    | none => false
  | _ => false

def showsLoading (source : List Char) : Bool :=
  occursWhere (fun _ s => startsSuspense s) source ||
    (occursWhere startsLoadingDeclaration source &&
      (occursWhere startsLoadingChoice source || occursWhere startsLoadingCondition source))

def isSmallOrDigit (c : Char) : Bool :=
  isAsciiLower c || isAsciiDigit c

/-- Letters and digits after a capital. -/
def isPascalCase : List Char → Bool
  | [] => false
  | c :: s => isAsciiUpper c && s.all isAsciiAlphanumeric

/-- Letters and digits after a small letter. -/
def isCamelCase : List Char → Bool
  | [] => false
  | c :: s => isAsciiLower c && s.all isAsciiAlphanumeric

/-- Words of small letters and digits with single hyphens between them, after a small letter. -/
def isKebabCase (s : List Char) : Bool :=
  s.head?.any isAsciiLower &&
    (splitAt '-' s).all fun word => !word.isEmpty && word.all isSmallOrDigit

def isComponentName (name : String) : Bool :=
  name == "index" || isPascalCase name.toList

def isUtilityName (name : String) : Bool :=
  name == "index" || isCamelCase name.toList || isKebabCase name.toList

end GapAudit.Quality
