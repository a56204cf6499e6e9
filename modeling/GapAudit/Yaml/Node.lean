import GapAudit.Yaml.Token

/-!
Documents of YAML as trees of nodes, with aliases kept as references to anchored nodes.
-/

namespace GapAudit.Yaml

/-- A node of a document. -/
inductive Node where
  | scalar (text : String) (style : Style) (tag : Option String)
  | list (items : List Node)
  | mapping (entries : List (Node × Node))
  /-- A reference to an anchored node by its number. -/
  | reference (number : Nat)

/-- A node without content, as a missing value is read. -/
def Node.empty : Node :=
  .scalar "" .plain none

/-- A node that an alias may refer to: its number and its place among all anchored nodes. -/
structure Anchored where
  number : Nat
  order : Nat
  node : Node

/-- A document: its root and the nodes that aliases refer to. -/
structure Document where
  root : Node
  anchored : List Anchored

/-- The node that a number refers to: of several the last in the order of the text. -/
def Document.target? (document : Document) (number : Nat) : Option Node :=
  ((document.anchored.filter (·.number == number)).foldl (fun found next =>
    match found with
    | some best => if best.order < next.order then some next else found
    | none => some next) none).map (·.node)

namespace Document

/-- What is known while nodes are read. -/
structure Reading where
  /-- The tokens that are not read yet. -/
  tokens : List Token
  /-- What handles of tags stand for. -/
  handles : List (String × String) := [("!", "!"), ("!!", "tag:yaml.org,2002:")]
  /-- The names of anchors with the numbers last given to them. -/
  names : List (String × Nat) := []
  /-- How many anchors there were. -/
  count : Nat := 0
  /-- The anchored nodes that are complete. -/
  anchored : List Anchored := []

/-- A step in reading a document. -/
abbrev Reader := StateT Reading Option

def peek : Reader (Option Token) := do
  return (← get).tokens.head?

def skip : Reader Unit :=
  modify fun r => { r with tokens := r.tokens.drop 1 }

def nextIsIn (tokens : List (Option Token)) : Reader Bool := do
  return tokens.contains (← peek)

/-- The step that passes over a token and reads nothing where it is another. -/
def expect (token : Token) : Reader Unit := do
  if (← peek) == some token then skip else failure

/-- The number of a new anchor and its place among all: the number is that of the different names
before it. -/
def newAnchor (name : String) : Reader (Nat × Nat) := do
  let r ← get
  let number := r.names.length
  let others := r.names.filter (·.1 != name)
  set { r with names := (name, number) :: others, count := r.count + 1 }
  return (number, r.count)

/-- The whole of a tag, with what its handle stands for. -/
def tagText (handle : Option String) (rest : String) : Reader String := do
  match handle with
  | none => return rest
  | some handle =>
    match (← get).handles.lookup handle with
    | some meaning => return meaning ++ rest
    | none => failure

def anchor : Reader (Option (Nat × Nat)) := do
  match ← peek with
  | some (.anchor name) =>
    skip
    return some (← newAnchor name)
  | _ => return none

def tag : Reader (Option (Option String × String)) := do
  match ← peek with
  | some (.tag handle rest) =>
    skip
    return some (handle, rest)
  | _ => return none

/-- An anchor and a tag before a node, in either order. -/
def properties : Reader (Option (Nat × Nat) × Option String) := do
  let early ← tag
  let place ← anchor
  let late ← if early.isNone then tag else pure none
  match early.or late with
  | none => return (place, none)
  | some (handle, rest) => return (place, some (← tagText handle rest))

/-- Tokens before which the value of an item in a block is missing. -/
def endsItem : List (Option Token) :=
  [some .item, some .blockEnd]

/-- Tokens before which the value of an item without indentation of its own is missing. -/
def endsFlatItem : List (Option Token) :=
  [some .item, some .key, some .value, some .blockEnd]

def endsEntry : List (Option Token) :=
  [some .key, some .value, some .blockEnd]

mutual

/-- A node. In a block it may itself be a block, and where `flat` is set it may be a list whose
items are not indented. -/
def node : (fuel : Nat) → (block flat : Bool) → Reader Node
  | 0, _, _ => failure
  | fuel + 1, block, flat => do
    match ← peek with
    | some (.reference name) =>
      skip
      match (← get).names.lookup name with
      | some number => return .reference number
      | none => failure
    | _ =>
      let (place, tag) ← properties
      let content ← content fuel block flat tag (place.isSome || tag.isSome)
      match place with
      | some (number, order) =>
        modify fun r => { r with anchored := ⟨number, order, content⟩ :: r.anchored }
      | none => pure ()
      return content

/-- A node behind its properties; with properties it may be empty. -/
def content : (fuel : Nat) → (block flat : Bool) → (tag : Option String) → (mayBeEmpty : Bool) →
    Reader Node
  | 0, _, _, _, _ => failure
  | fuel + 1, block, flat, tag, mayBeEmpty => do
    match ← peek, flat, block with
    -- the value of a key may be a list in the column of the key
    | some .item, true, _ => return .list (← flatItems fuel)
    | some (.scalar text style), _, _ =>
      skip
      return .scalar text style tag
    | some .openBracket, _, _ =>
      skip
      return .list (← flowItems fuel true)
    | some .openBrace, _, _ =>
      skip
      return .mapping (← flowEntries fuel true)
    | some .sequenceStart, _, true =>
      skip
      return .list (← items fuel)
    | some .mappingStart, _, true =>
      skip
      return .mapping (← entries fuel)
    | _, _, _ => if mayBeEmpty then return .scalar "" .plain tag else failure

/-- A node, unless a token comes before which it is missing. -/
def nodeUnless : (fuel : Nat) → (block flat : Bool) → List (Option Token) → Reader Node
  | 0, _, _, _ => failure
  | fuel + 1, block, flat, ends => do
    if ← nextIsIn ends then return .empty else node fuel block flat

def items : (fuel : Nat) → Reader (List Node)
  | 0 => failure
  | fuel + 1 => do
    match ← peek with
    | some .item =>
      skip
      let item ← nodeUnless fuel true false endsItem
      return item :: (← items fuel)
    | some .blockEnd =>
      skip
      return []
    | _ => failure

def flatItems : (fuel : Nat) → Reader (List Node)
  | 0 => failure
  | fuel + 1 => do
    if (← peek) == some .item then
      skip
      let item ← nodeUnless fuel true false endsFlatItem
      return item :: (← flatItems fuel)
    else return []

def entries : (fuel : Nat) → Reader (List (Node × Node))
  | 0 => failure
  | fuel + 1 => do
    match ← peek with
    | some .key =>
      skip
      let key ← nodeUnless fuel true true endsEntry
      let value ← valueUnless fuel true endsEntry
      return (key, value) :: (← entries fuel)
    | some .blockEnd =>
      skip
      return []
    | _ => failure

/-- The value of an entry, which may be missing. -/
def valueUnless : (fuel : Nat) → (block : Bool) → List (Option Token) → Reader Node
  | 0, _, _ => failure
  | fuel + 1, block, ends => do
    if (← peek) == some .value then
      skip
      nodeUnless fuel block block ends
    else return .empty

def flowItems : (fuel : Nat) → (first : Bool) → Reader (List Node)
  | 0, _ => failure
  | fuel + 1, first => do
    if (← peek) == some .closeBracket then
      skip
      return []
    else
      if !first then expect .comma
      match ← peek with
      | some .closeBracket =>
        skip
        return []
      | some .key =>
        skip
        let entry ← singleEntry fuel
        return .mapping [entry] :: (← flowItems fuel false)
      | _ =>
        let item ← node fuel false false
        return item :: (← flowItems fuel false)

/-- The only entry of a mapping that is an item between brackets. Where its key is missing, the next
token is lost with it. -/
def singleEntry : (fuel : Nat) → Reader (Node × Node)
  | 0 => failure
  | fuel + 1 => do
    let ends := [some Token.comma, some .closeBracket]
    if ← nextIsIn (some .value :: ends) then
      skip
      return (.empty, ← valueUnless fuel false ends)
    else
      let key ← node fuel false false
      return (key, ← valueUnless fuel false ends)

/-- The entries of a mapping between braces. -/
def flowEntries : (fuel : Nat) → (first : Bool) → Reader (List (Node × Node))
  | 0, _ => failure
  | fuel + 1, first => do
    if (← peek) == some .closeBrace then
      skip
      return []
    else
      if !first then expect .comma
      let ends := [some Token.comma, some .closeBrace]
      match ← peek with
      | some .closeBrace =>
        skip
        return []
      | some .key =>
        skip
        let key ← nodeUnless fuel false false (some .value :: ends)
        let value ← valueUnless fuel false ends
        return (key, value) :: (← flowEntries fuel false)
      | _ =>
        let key ← node fuel false false
        return (key, .empty) :: (← flowEntries fuel false)

end

/-- The directives before a document: at most one version, which must be a known one, and handles of
tags, each once. -/
def directives : List Token → (version : Bool) → (handles : List (String × String)) →
    Option (List (String × String) × List Token)
  | .version major minor :: tokens, version, handles =>
    if !version && major == 1 && (minor == 1 || minor == 2) then directives tokens true handles
    else none
  | .handle name meaning :: tokens, version, handles =>
    if (handles.lookup name).isSome then none
    else directives tokens version ((name, meaning) :: handles)
  | tokens, _, handles => some (handles, tokens)

def isOutside : Token → Bool
  | .version .. | .handle .. | .documentStart | .documentEnd => true
  | _ => false

/-- The root of a document behind its start, and the state at its end. -/
def rootOf (fuel : Nat) (r : Reading) (explicit : Bool) : Option (Node × Reading) :=
  if explicit && r.tokens.head?.all isOutside then some (.empty, r)
  else (node fuel true false).run r

/-- The document of tokens. There is at most one; without any, the root is empty. -/
def ofTokens? (tokens : List Token) : Option Document := do
  let fuel := 4 * tokens.length + 4
  if tokens.isEmpty then some ⟨.empty, []⟩
  else
    let (handles, rest) ← directives tokens false []
    let start : Reading := { tokens := rest }
    let start := { start with handles := handles ++ start.handles }
    let (root, r) ←
      match rest with
      | .documentStart :: rest => rootOf fuel { start with tokens := rest } true
      | _ => if rest.length < tokens.length then none else rootOf fuel start false
    if (r.tokens.dropWhile (· == .documentEnd)).isEmpty then some ⟨root, r.anchored⟩ else none

def parse? (text : String) : Option Document :=
  tokens? text.toList >>= ofTokens?

end Document

end GapAudit.Yaml
