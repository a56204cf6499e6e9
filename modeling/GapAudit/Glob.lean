import GapAudit.Text.Scan

/-!
Patterns for paths. A pattern is read into tokens, and a path matches if its bytes can be divided
among them. Apart from the double star nothing treats separators differently from other bytes.
-/

namespace GapAudit

namespace Glob

/-- A part of a pattern. -/
inductive Token where
  /-- A character that stands for itself. -/
  | literal (c : Char)
  /-- Any one byte. -/
  | anyByte
  /-- Any bytes. -/
  | anyBytes
  /-- Any folders at the start of a path. -/
  | leadingFolders
  /-- A separator and anything behind it. -/
  | trailingPath
  /-- A separator, and perhaps folders up to a further one. -/
  | innerFolders
  /-- One byte of a set, or one outside it. -/
  | oneOf (negated : Bool) (ranges : List (Char × Char))
  /-- One of several patterns. -/
  | alternatives (branches : List (List Token))

/-- Why a text is no pattern. -/
inductive Error where
  | unclosedSet
  | reversedRange (first last : Char)
  | unopenedAlternatives
  | unclosedAlternatives
  | danglingEscape
  deriving DecidableEq, Repr

/-- Alternatives that are being read: those complete, and the reversed tokens of the last. -/
structure Level where
  complete : List (List Token)
  current : List Token

/-- What a reader of a pattern has found: the level it is on, the levels around that, and the
character before the next one. -/
structure State where
  level : Level
  outer : List Level
  previous : Option Char

def State.push (st : State) (token : Token) : State :=
  { st with level := { st.level with current := token :: st.level.current } }

def State.pop (st : State) : State :=
  { st with level := { st.level with current := st.level.current.tail } }

def Level.branches (level : Level) : List (List Token) :=
  level.complete ++ [level.current.reverse]

/-- The set after an opening bracket: its ranges and the text after the closing bracket. A closing
bracket or a hyphen that comes first stands for itself, and so does a hyphen that comes last. -/
def readSet (ranges : List (Char × Char)) (first inRange : Bool) :
    List Char → Except Error (List (Char × Char) × List Char)
  | [] => .error .unclosedSet
  | c :: s =>
    if c == ']' && !first then
      .ok ((if inRange then ('-', '-') :: ranges else ranges).reverse, s)
    else if c == '-' && !first && !inRange then
      readSet ranges false true s
    else if inRange then
      match ranges with
      | (low, _) :: more =>
        if c < low then .error (.reversedRange low c) else readSet ((low, c) :: more) false false s
      -- never met: a hyphen only opens a range behind a character
      | [] => readSet [(c, c)] false false s
    else readSet ((c, c) :: ranges) false false s

/-- The state after a double star, and the text after it. Next to separators, or alone in its
alternative, it stands for folders; elsewhere it is two single stars. -/
def doubleStar (st : State) (s : List Char) : State × List Char :=
  let twoStars := ((st.push .anyBytes).push .anyBytes, s)
  let atSeparator := s.isEmpty || s.head? == some '/'
  if st.level.current.isEmpty then
    if atSeparator then (st.push .leadingFolders, s.drop 1) else twoStars
  else if st.previous != some '/' &&
      (st.outer.isEmpty || (st.previous != some ',' && st.previous != some '\x7b')) then
    twoStars
  else
    let closes := s.isEmpty ||
      ((s.head? == some ',' || s.head? == some '\x7d') && !st.outer.isEmpty)
    if !closes && s.head? != some '/' then twoStars
    else
      -- The separator before goes with the double star, which also takes in one before that.
      let token :=
        match st.level.current with
        | .leadingFolders :: _ => .leadingFolders
        | .trailingPath :: _ => .trailingPath
        | _ => if closes then .trailingPath else .innerFolders
      (st.pop.push token, if closes then s else s.drop 1)

/-- The state after a text of at most `limit` characters has been read. -/
def readFrom : (limit : Nat) → State → List Char → Except Error State
  | _, st, [] => .ok st
  | 0, st, _ => .ok st
  | limit + 1, st, c :: s =>
    let go (st : State) (previous : Char) (s : List Char) : Except Error State :=
      readFrom limit { st with previous := some previous } s
    match c, s with
    | '?', s => go (st.push .anyByte) c s
    | '*', '*' :: s =>
      let (next, rest) := doubleStar st s
      -- a separator behind the double star has gone with it
      go next (if rest.length < s.length then '/' else '*') rest
    | '*', s => go (st.push .anyBytes) c s
    | '[', s =>
      let negated := s.head? == some '!' || s.head? == some '^'
      match readSet [] true false (if negated then s.drop 1 else s) with
      | .error e => .error e
      | .ok (ranges, rest) => go (st.push (.oneOf negated ranges)) ']' rest
    | '\x7b', s => go { st with level := ⟨[], []⟩, outer := st.level :: st.outer } c s
    | '\x7d', s =>
      match st.outer with
      | [] => .error .unopenedAlternatives
      | level :: outer =>
        go (State.push { st with level, outer } (.alternatives st.level.branches)) c s
    | ',', s =>
      -- outside alternatives a comma stands for itself
      if st.outer.isEmpty then go (st.push (.literal c)) c s
      else go { st with level := ⟨st.level.branches, []⟩ } c s
    | '\\', [] => .error .danglingEscape
    | '\\', e :: s => go (st.push (.literal e)) e s
    | c, s => go (st.push (.literal c)) c s

def read (pattern : String) : Except Error (List Token) :=
  match readFrom pattern.length ⟨⟨[], []⟩, [], none⟩ pattern.toList with
  | .error e => .error e
  | .ok st =>
    if st.outer.isEmpty then .ok st.level.current.reverse else .error .unclosedAlternatives

def bytes (s : List Char) : List UInt8 :=
  s.flatMap String.utf8EncodeChar

def separator : UInt8 := 47

/-- Every rest of a list of bytes, itself and the empty one included. -/
def rests : List UInt8 → List (List UInt8)
  | [] => [[]]
  | b :: s => (b :: s) :: rests s

/-- What follows each separator in a list of bytes. -/
def restsAfterSeparator : List UInt8 → List (List UInt8)
  | [] => []
  | b :: s => if b == separator then s :: restsAfterSeparator s else restsAfterSeparator s

/-- The bytes that a range of a set admits. Of characters of several bytes each byte counts alone,
and the range runs from the last byte of its first character to the first byte of its last. -/
def rangeAdmits (b : UInt8) : Char × Char → Bool
  | (first, last) =>
    let low := bytes [first]
    let high := bytes [last]
    if first == last then low.contains b
    else
      low.dropLast.contains b || high.tail.contains b ||
        (low.getLast?.any (· ≤ b) && high.head?.any (b ≤ ·))

mutual

/-- Whether a token can match nothing but no bytes: alternatives without any. -/
def tokenVoid : Token → Bool
  | .alternatives branches => branchesVoid branches
  | _ => false

def tokensVoid : List Token → Bool
  | [] => true
  | token :: tokens => tokenVoid token && tokensVoid tokens

def branchesVoid : List (List Token) → Bool
  | [] => true
  | tokens :: branches => tokensVoid tokens && branchesVoid branches

end

mutual

/-- Whether a token matches some bytes at the head of a list so that the rest is accepted. -/
def tokenMatches (accept : List UInt8 → Bool) (s : List UInt8) : Token → Bool
  | .literal c =>
    let own := bytes [c]
    own.isPrefixOf s && accept (s.drop own.length)
  | .anyByte =>
    match s with
    | [] => false
    | _ :: rest => accept rest
  | .anyBytes => (rests s).any accept
  | .leadingFolders => accept s || (restsAfterSeparator s).any accept
  | .trailingPath =>
    match s with
    | [] => false
    | b :: rest => b == separator && (rests rest).any accept
  | .innerFolders =>
    match s with
    | [] => false
    | b :: rest => b == separator && (accept rest || (restsAfterSeparator rest).any accept)
  | .oneOf negated ranges =>
    match s with
    | [] => false
    | b :: rest => (ranges.any (rangeAdmits b)) != negated && accept rest
  | .alternatives branches => branchesMatch accept s false branches

/-- Whether the tokens of a pattern match some bytes at the head of a list so that the rest is
accepted. -/
def tokensMatch (accept : List UInt8 → Bool) (s : List UInt8) : List Token → Bool
  | [] => accept s
  | token :: tokens => tokenMatches (fun rest => tokensMatch accept rest tokens) s token

/-- Whether one of several patterns matches. Void ones do not count, unless there are no others. -/
def branchesMatch (accept : List UInt8 → Bool) (s : List UInt8) (seen : Bool) :
    List (List Token) → Bool
  | [] => !seen && accept s
  | tokens :: branches =>
    if tokensVoid tokens then branchesMatch accept s seen branches
    else tokensMatch accept s tokens || branchesMatch accept s true branches

end

/-- Whether tokens match a whole list of bytes. Folders at the start alone match everything. -/
def accepts (tokens : List Token) (s : List UInt8) : Bool :=
  match tokens with
  | [.leadingFolders] => true
  | tokens => tokensMatch (·.isEmpty) s tokens

/-- Whether a pattern matches a path; a text that is no pattern matches nothing. -/
def matchesPath (pattern path : String) : Bool :=
  match read pattern with
  | .ok tokens => accepts tokens (bytes path.toList)
  | .error _ => false

end Glob

end GapAudit
