import GapAudit.Text.Letter
import GapAudit.Yaml.Scalar

/-!
Tokens of YAML. Indentation becomes tokens that open and close blocks. A key is recognised only by
the colon behind it, so the token of a key is put in front of what was read before.
-/

namespace GapAudit.Yaml

/-- The forms of a scalar that make a difference. -/
inductive Style where
  | plain
  | quoted
  | literal
  | folded
  deriving DecidableEq, Repr

inductive Token where
  | version (major minor : Nat)
  /-- A handle and what it stands for at the start of tags. -/
  | handle (name meaning : String)
  | documentStart
  | documentEnd
  | sequenceStart
  | mappingStart
  | blockEnd
  | openBracket
  | closeBracket
  | openBrace
  | closeBrace
  | item
  | comma
  | key
  | value
  | reference (name : String)
  | anchor (name : String)
  /-- A tag: its handle, which a verbatim tag does not have, and the rest. -/
  | tag (handle : Option String) (rest : String)
  | scalar (text : String) (style : Style)
  deriving DecidableEq, Repr

/-- A place where a key may have begun: the number of tokens before it, and whether nothing but a
key may stand there. -/
structure KeyStart where
  tokens : Nat
  place : Position
  required : Bool
  deriving DecidableEq, Repr

/-- What is known while tokens are read. -/
structure Scan where
  /-- The tokens, the latest first. -/
  tokens : List Token := []
  /-- The indentation of the innermost block, below 0 outside all blocks. -/
  indent : Int := -1
  /-- The indentations of the blocks around it. -/
  outer : List Int := []
  /-- Where a key may have begun, innermost brackets first and the block last. -/
  keys : List (Option KeyStart) := [none]
  /-- Whether a key may begin here. -/
  keyAllowed : Bool := true

namespace Scan

def inFlow (st : Scan) : Bool :=
  1 < st.keys.length

def emit (st : Scan) (token : Token) : Scan :=
  { st with tokens := token :: st.tokens }

/-- Tokens with new ones put behind the first `count` of them. The lists have the latest first. -/
def insertAfter (count : Nat) (inserted tokens : List Token) : List Token :=
  let newer := tokens.length - count
  tokens.take newer ++ inserted ++ tokens.drop newer

/-- The end of all blocks that are indented deeper than a column. -/
def closeTo (column : Int) (indent : Int) (tokens : List Token) :
    List Int → Int × List Int × List Token
  | [] => (indent, [], tokens)
  | next :: outer =>
    if column < indent then closeTo column next (.blockEnd :: tokens) outer
    else (indent, next :: outer, tokens)

/-- The state after the end of all blocks that are indented deeper than a column. Between brackets
indentation does not count. -/
def unroll (st : Scan) (column : Int) : Scan :=
  if st.inFlow then st
  else
    let (indent, outer, tokens) := closeTo column st.indent st.tokens st.outer
    { st with indent, outer, tokens }

/-- The state in a block at a column, which starts behind the first `count` tokens if it is not the
innermost block already. Tokens in `also` go to the same place in any case, behind the start. -/
def roll (st : Scan) (column count : Nat) (start : Token) (also : List Token) : Scan :=
  if !st.inFlow && st.indent < column then
    { st with
      indent := column
      outer := st.indent :: st.outer
      tokens := insertAfter count (also ++ [start]) st.tokens }
  else { st with tokens := insertAfter count also st.tokens }

/-- The state in which no key has begun at this level. A required key must not be given up. -/
def dropKey (st : Scan) : Option Scan :=
  match st.keys with
  | [] => some st
  | key :: keys => if key.any (·.required) then none else some { st with keys := none :: keys }

/-- The state in which a key may have begun here, if one may. -/
def saveKey (st : Scan) (pos : Position) : Option Scan :=
  if st.keyAllowed then do
    let required := !st.inFlow && st.indent == pos.column
    let st ← st.dropKey
    some { st with keys := some ⟨st.tokens.length, pos, required⟩ :: st.keys.drop 1 }
  else some st

/-- Whether a key that began at one place may still end at another: on the same line and not too
far. -/
def reaches (start : KeyStart) (pos : Position) : Bool :=
  pos.line ≤ start.place.line && pos.index ≤ start.place.index + 1024

/-- The state in which keys that can no longer end have not begun. -/
def dropStale (st : Scan) (pos : Position) : Option Scan := do
  let keys ← st.keys.mapM fun key =>
    match key with
    | none => some none
    | some start =>
      if reaches start pos then some (some start)
      else if start.required then none
      else some none
  some { st with keys }

/-- What a step in reading tokens leads to: the state and the rest of the text. -/
abbrev Step := Option (Scan × Position × List Char)

/-- The mark between documents or behind one, which ends all blocks. -/
def mark (st : Scan) (token : Token) (pos : Position) (rest : List Char) : Step := do
  let st ← (st.unroll (-1)).dropKey
  some ({ st with keyAllowed := false }.emit token, pos.skip 3, rest)

def openFlow (st : Scan) (token : Token) (pos : Position) (rest : List Char) : Step := do
  let st ← st.saveKey pos
  some ({ st with keys := none :: st.keys, keyAllowed := true }.emit token, pos.skip 1, rest)

def closeFlow (st : Scan) (token : Token) (pos : Position) (rest : List Char) : Step := do
  let st ← st.dropKey
  let keys := if st.inFlow then st.keys.drop 1 else st.keys
  some ({ st with keys, keyAllowed := false }.emit token, pos.skip 1, rest)

def comma (st : Scan) (pos : Position) (rest : List Char) : Step := do
  let st ← st.dropKey
  some ({ st with keyAllowed := true }.emit .comma, pos.skip 1, rest)

def item (st : Scan) (pos : Position) (rest : List Char) : Step := do
  if !st.inFlow && !st.keyAllowed then none
  else
    let st ← (st.roll pos.column st.tokens.length .sequenceStart []).dropKey
    some ({ st with keyAllowed := true }.emit .item, pos.skip 1, rest)

def explicitKey (st : Scan) (pos : Position) (rest : List Char) : Step := do
  if !st.inFlow && !st.keyAllowed then none
  else
    let st ← (st.roll pos.column st.tokens.length .mappingStart []).dropKey
    some ({ st with keyAllowed := !st.inFlow }.emit .key, pos.skip 1, rest)

/-- The indicator of a value, before which a key may have begun. -/
def value (st : Scan) (pos : Position) (rest : List Char) : Step :=
  match st.keys with
  | some start :: keys =>
    let st := st.roll start.place.column start.tokens .mappingStart [.key]
    some ({ st with keys := none :: keys, keyAllowed := false }.emit .value, pos.skip 1, rest)
  | _ =>
    if !st.inFlow && !st.keyAllowed then none
    else
      let st := st.roll pos.column st.tokens.length .mappingStart []
      some ({ st with keyAllowed := !st.inFlow }.emit .value, pos.skip 1, rest)

def isNameChar (c : Char) : Bool :=
  Text.isAsciiAlphanumeric c || c == '_' || c == '-'

def endsName (next : Option Char) : Bool :=
  endsWord next || next.any ['?', ':', ',', ']', '\x7d', '%', '@', '\x60'].contains

/-- An anchor or an alias behind its indicator. -/
def name (st : Scan) (token : String → Token) (pos : Position) (rest : List Char) : Step := do
  let st ← st.saveKey pos
  let (name, rest) := Text.spanWhile isNameChar rest
  if name.isEmpty || !endsName rest.head? then none
  else
    some ({ st with keyAllowed := false }.emit (token (String.ofList name)),
      pos.skip (name.length + 1), rest)

/-- Characters of tags; some only in verbatim ones. -/
def isTagChar (verbatim : Bool) (c : Char) : Bool :=
  isNameChar c || ";/?:@&=+$.%!~*'()".toList.contains c || (verbatim && [',', '[', ']'].contains c)

/-- The value of a byte written as a percent sign and two digits, and what follows. -/
def escapedByte? : List Char → Option (Nat × List Char)
  | '%' :: a :: b :: s => do some ((← hexDigit? a) * 16 + (← hexDigit? b), s)
  | _ => none

/-- The number of bytes of a character whose first byte is given, and the bits that byte adds. -/
def leadingBits? (byte : Nat) : Option (Nat × Nat) :=
  if byte < 0x80 then some (1, byte)
  else if 0xc0 ≤ byte && byte < 0xe0 then some (2, byte % 0x20)
  else if 0xe0 ≤ byte && byte < 0xf0 then some (3, byte % 0x10)
  else if 0xf0 ≤ byte && byte < 0xf8 then some (4, byte % 0x08)
  else none

/-- The further bytes of an escaped character. -/
def trailingBits? : (count value : Nat) → List Char → Option (Nat × List Char)
  | 0, value, s => some (value, s)
  | count + 1, value, s => do
    let (byte, s) ← escapedByte? s
    if 0x80 ≤ byte && byte < 0xc0 then trailingBits? count (value * 64 + byte % 64) s else none

/-- A character whose bytes are all escaped, and what follows. -/
def escapedInTag? (s : List Char) : Option (Char × List Char) := do
  let (byte, s) ← escapedByte? s
  let (size, bits) ← leadingBits? byte
  let (value, s) ← trailingBits? (size - 1) bits s
  some ((charOfNat? value).getD '\ufffd', s)

/-- The text of a tag with its escapes resolved. -/
def tagText? : (fuel : Nat) → List Char → Option (List Char)
  | 0, _ | _, [] => some []
  | fuel + 1, c :: s =>
    if c == '%' then do
      let (char, s) ← escapedInTag? (c :: s)
      some (char :: (← tagText? fuel s))
    else (tagText? fuel s).map (c :: ·)

/-- The text of a tag at the head of a text, and what follows. -/
def tagRest? (verbatim : Bool) (s : List Char) : Option (List Char × List Char) := do
  let (written, rest) := Text.spanWhile (isTagChar verbatim) s
  some (← tagText? written.length written, rest)

/-- A handle at the head of a text: an exclamation mark, letters, and perhaps another mark. -/
def tagHandle? : List Char → Option (List Char × List Char)
  | '!' :: s =>
    match Text.spanWhile isNameChar s with
    | (letters, '!' :: rest) => some ('!' :: letters ++ ['!'], rest)
    | (letters, rest) => some ('!' :: letters, rest)
  | _ => none

def tagAt? (s : List Char) : Option (Token × List Char) :=
  match s with
  | '!' :: '<' :: s => do
    let (text, rest) ← tagRest? true s
    match rest with
    | '>' :: rest => if text.isEmpty then none else some (.tag none (String.ofList text), rest)
    | _ => none
  | s => do
    let (handle, rest) ← tagHandle? s
    let (text, rest) ← tagRest? false rest
    if 2 ≤ handle.length && handle.getLast? == some '!' then
      if text.isEmpty then none
      else some (.tag (some (String.ofList handle)) (String.ofList text), rest)
    else
      match handle.drop 1 ++ text with
      | [] => some (.tag none "!", rest)
      | all => some (.tag (some "!") (String.ofList all), rest)

def tag (st : Scan) (pos : Position) (s : List Char) : Step := do
  let st ← st.saveKey pos
  let (token, rest) ← tagAt? s
  if endsWord rest.head? || (st.inFlow && rest.head? == some ',') then
    some ({ st with keyAllowed := false }.emit token, pos.skip (s.length - rest.length), rest)
  else none

def blockScalar (st : Scan) (literal : Bool) (pos : Position) (rest : List Char) : Step := do
  let st ← st.dropKey
  let (text, pos, rest) ← block? literal st.indent (pos.skip 1) rest
  let style : Style := if literal then .literal else .folded
  some ({ st with keyAllowed := true }.emit (.scalar (String.ofList text) style), pos, rest)

def quoted (st : Scan) (double : Bool) (pos : Position) (rest : List Char) : Step := do
  let st ← st.saveKey pos
  let (reversed, pos, rest) ←
    if double then doubleQuotedFrom .outside [] {} (pos.skip 1) rest
    else singleQuotedFrom [] {} (pos.skip 1) rest
  let token := Token.scalar (String.ofList reversed.reverse) .quoted
  some ({ st with keyAllowed := false }.emit token, pos, rest)

/-- A plain scalar. Where it goes on over the end of a line, a key may begin behind it. -/
def plain (st : Scan) (pos : Position) (s : List Char) : Step := do
  let st ← st.saveKey pos
  let (scalar, pos, rest) ← plainFrom st.inFlow (st.indent + 1) {} pos s
  let token := Token.scalar (String.ofList scalar.reversed.reverse) .plain
  some ({ st with keyAllowed := scalar.folding.broken }.emit token, pos, rest)

/-- A number of a version: one to nine digits. -/
def versionNumber? (s : List Char) : Option (Nat × List Char) :=
  let (digits, rest) := Text.spanWhile Text.isAsciiDigit s
  if digits.isEmpty || 9 < digits.length then none
  else some (digits.foldl (fun n d => n * 10 + (d.toNat - '0'.toNat)) 0, rest)

/-- What a directive says behind its name, and what follows. -/
def directiveValue? (name s : List Char) : Option (Token × List Char) := do
  let s := s.dropWhile isGap
  if name == "YAML".toList then
    let (major, s) ← versionNumber? s
    let (minor, s) ← versionNumber? (← Text.after? ['.'] s)
    some (.version major minor, s)
  else if name == "TAG".toList then
    let (handle, s) ← tagHandle? s
    if handle.length != 1 && handle.getLast? != some '!' then none
    else if !s.head?.any isGap then none
    else
      let (meaning, s) ← tagRest? true (s.dropWhile isGap)
      if meaning.isEmpty || !endsWord s.head? then none
      else some (.handle (String.ofList handle) (String.ofList meaning), s)
  else none

def directive (st : Scan) (pos : Position) (s : List Char) : Step := do
  let st ← (st.unroll (-1)).dropKey
  let (name, rest) := Text.spanWhile isNameChar s
  if name.isEmpty || !endsWord rest.head? then none
  else
    let (token, rest) ← directiveValue? name rest
    let (pos, rest) ← lineEnd? (pos.skip (s.length - rest.length + 1)) rest
    some ({ st with keyAllowed := false }.emit token, pos, rest)

def isIndicator (c : Char) : Bool :=
  "-?:,[]\x7b\x7d#&*!|>'\"%@\x60".toList.contains c

def startsPlain (flow : Bool) (c : Char) (next : Option Char) : Bool :=
  !(isGap c || isBreak c || isIndicator c) || (c == '-' && !next.any isGap) ||
    (!flow && (c == '?' || c == ':') && !endsWord next)

/-- The token at the head of a text that starts with neither blanks nor a comment. -/
def step (st : Scan) (pos : Position) (c : Char) (s : List Char) : Step :=
  let word := endsWord s.head?
  -- At the start of a line, directives and marks go before all other tokens.
  if pos.column == 0 && c == '%' then st.directive pos s
  else if pos.column == 0 && startsTriple '-' (c :: s) then
    st.mark .documentStart pos (s.drop 2)
  else if pos.column == 0 && startsTriple '.' (c :: s) then
    st.mark .documentEnd pos (s.drop 2)
  else if c == '[' then st.openFlow .openBracket pos s
  else if c == '\x7b' then st.openFlow .openBrace pos s
  else if c == ']' then st.closeFlow .closeBracket pos s
  else if c == '\x7d' then st.closeFlow .closeBrace pos s
  else if c == ',' then st.comma pos s
  else if c == '-' && word then st.item pos s
  else if c == '?' && (st.inFlow || word) then st.explicitKey pos s
  else if c == ':' && (st.inFlow || word) then st.value pos s
  else if c == '*' then st.name .reference pos s
  else if c == '&' then st.name .anchor pos s
  else if c == '!' then st.tag pos (c :: s)
  else if c == '|' && !st.inFlow then st.blockScalar true pos s
  else if c == '>' && !st.inFlow then st.blockScalar false pos s
  else if c == '\'' then st.quoted false pos s
  else if c == '"' then st.quoted true pos s
  else if startsPlain st.inFlow c s.head? then st.plain pos (c :: s)
  else none

/-- The place of the next token: behind blanks, comments and line breaks. In a block, a new line may
start a key, and tabs are blanks only where no key may begin. -/
def toToken (flow : Bool) : (inComment keyAllowed : Bool) → Position → List Char →
    Bool × Position × List Char
  | _, keyAllowed, pos, [] => (keyAllowed, pos, [])
  | inComment, keyAllowed, pos, c :: s =>
    if isBreak c then toToken flow false (keyAllowed || !flow) (pos.after c) s
    else if inComment || c == ' ' || (c == '\t' && (flow || !keyAllowed)) then
      toToken flow inComment keyAllowed (pos.skip 1) s
    else if c == '#' then toToken flow true keyAllowed (pos.skip 1) s
    else (keyAllowed, pos, c :: s)

/-- All tokens of a text, in at most `fuel` steps. -/
def tokensFrom : (fuel : Nat) → Scan → Position → List Char → Option (List Token)
  | 0, _, _, _ => none
  | fuel + 1, st, pos, s => do
    let (keyAllowed, pos, s) := toToken st.inFlow false st.keyAllowed pos s
    let st ← { st with keyAllowed }.dropStale pos
    match s with
    | [] =>
      -- every open block lies right of this column
      let st ← (st.unroll (-1)).dropKey
      some st.tokens.reverse
    | c :: s =>
      let (st, pos, s) ← (st.unroll pos.column).step pos c s
      tokensFrom fuel st pos s

end Scan

def isAllowed (c : Char) : Bool :=
  let n := c.toNat
  c == '\t' || c == '\n' || c == '\r' || (0x20 ≤ n && n ≤ 0x7e) || n == 0x85 ||
    (0xa0 ≤ n && n ≤ 0xfffd) || 0x10000 ≤ n

/-- A text with all line breaks of one or two characters of control written as line feeds. -/
def withLineFeeds : List Char → List Char
  | [] => []
  | '\r' :: '\n' :: s => '\n' :: withLineFeeds s
  | c :: s => (if c == '\r' || c == '\u0085' then '\n' else c) :: withLineFeeds s

/-- The tokens of a text. A byte order mark at its start is passed over. -/
def tokens? (s : List Char) : Option (List Token) :=
  if s.all isAllowed then
    let s := withLineFeeds s
    let s := (Text.after? ['\ufeff'] s).getD s
    let (pos, s) : Position × List Char :=
      match Text.after? ['\ufeff'] s with
      | some rest => (Position.skip {} 1, rest)
      | none => ({}, s)
    Scan.tokensFrom (s.length + 1) {} pos s
  else none

end GapAudit.Yaml
