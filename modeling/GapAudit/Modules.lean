import GapAudit.Keyed
import GapAudit.Text.Word

/-!
Module specifiers: which texts of a source name imported modules, and which packages they belong to.
The texts are found without parsing, so that any file can be searched.
-/

namespace GapAudit.Modules

open Text

/-- The modules that come with the runtime and are never declared. -/
def builtinModules : List String :=
  ["assert", "async_hooks", "buffer", "child_process", "cluster", "console", "constants", "crypto",
    "dgram", "diagnostics_channel", "dns", "domain", "events", "fs", "http", "http2", "https",
    "inspector", "module", "net", "os", "path", "perf_hooks", "process", "punycode", "querystring",
    "readline", "repl", "stream", "string_decoder", "sys", "timers", "tls", "trace_events", "tty",
    "url", "util", "v8", "vm", "wasi", "worker_threads", "zlib"]

/-- Beginnings of specifiers that point back into the project. -/
def aliasBeginnings : List String :=
  ["@/", "~/", "#/", "src/"]

/-- The text without block comments. A comment that is not closed stays; `inside` is set within one
that is. -/
def dropBlockComments : (inside : Bool) → List Char → List Char
  | _, [] => []
  | true, '*' :: '/' :: s => dropBlockComments false s
  | true, _ :: s => dropBlockComments true s
  | false, '/' :: '*' :: s =>
    if occursIn ['*', '/'] s then dropBlockComments true s
    else '/' :: dropBlockComments false ('*' :: s)
  | false, c :: s => c :: dropBlockComments false s

/-- Characters that keep two slashes behind them from starting a comment: a colon, as in addresses,
a quote or a backslash. -/
def shieldsSlashes (c : Char) : Bool :=
  c == ':' || c == '"' || c == '\'' || c == '\\'

/-- The text without line comments; `inside` is set up to the end of a line that holds one. -/
def dropLineComments : (inside : Bool) → (before : Option Char) → List Char → List Char
  | _, _, [] => []
  | true, _, c :: s =>
    if c == '\n' then c :: dropLineComments false (some c) s else dropLineComments true (some c) s
  | false, before, c :: s =>
    if c == '/' && s.head? == some '/' && !before.any shieldsSlashes then
      dropLineComments true (some c) s
    else c :: dropLineComments false (some c) s

def stripComments (s : List Char) : List Char :=
  dropLineComments false none (dropBlockComments false s)

/-- A text in quotes on one line that is not empty, and what follows it. Quotes of both kinds end
it. -/
def quotedSpecifier? (s : List Char) : Option (String × List Char) :=
  match s with
  | q :: s =>
    if q == '"' || q == '\'' then
      let inner := s.takeWhile fun c => c != '"' && c != '\'' && c != '\n'
      match s.drop inner.length with
      | e :: rest => if inner.isEmpty || e == '\n' then none else some (String.ofList inner, rest)
      | [] => none
    else none
  | [] => none

/-- A character that may stand between the first word of an import and its specifier. -/
def isClauseChar (c : Char) : Bool :=
  isWordChar c || c == '*' || c == '\x7b' || c == '\x7d' || isBlank c || c == ',' || c == '$'

/-- Whether a text between the first word of an import and its specifier is a clause: blanks around
something, and the word `from` with blanks behind it. -/
def isFromClause (s : List Char) : Bool :=
  let kept := trimEnd s
  kept.length < s.length && endsWith ['f', 'r', 'o', 'm'] kept &&
    (let clause := kept.take (kept.length - 4)
     3 ≤ clause.length && clause.head?.any isBlank && clause.getLast?.any isBlank)

/-- The specifier of an import or export statement at the head of a text. -/
def staticSpecifier? (before : Option Char) (s : List Char) : Option (String × List Char) := do
  let s ← wordAfter? before [['i', 'm', 'p', 'o', 'r', 't'], ['e', 'x', 'p', 'o', 'r', 't']] s
  let (clause, rest) := spanWhile isClauseChar s
  if (!clause.isEmpty && allBlank clause) || isFromClause clause then quotedSpecifier? rest
  else none

/-- The specifier of a call with one text as its argument at the head of a text. -/
def callSpecifier? (word : List Char) (before : Option Char) (s : List Char) :
    Option (String × List Char) := do
  let s ← wordAfter? before [word] s
  let s ← after? ['('] (trimStart s)
  let (specifier, s) ← quotedSpecifier? (trimStart s)
  let s ← after? [')'] (trimStart s)
  some (specifier, s)

/-- All specifiers of a source text: of statements first, then of dynamic imports, then of
`require` calls. -/
def specifiers (source : List Char) : List String :=
  let s := stripComments source
  scan staticSpecifier? s ++ scan (callSpecifier? ['i', 'm', 'p', 'o', 'r', 't']) s ++
    scan (callSpecifier? ['r', 'e', 'q', 'u', 'i', 'r', 'e']) s

def firstSegment (s : List Char) : List Char :=
  s.takeWhile (· != '/')

/-- The package that a specifier belongs to: its first segment, or the first two where a scope comes
first. Paths, aliases and schemes other than that of the runtime belong to none. -/
def packageOf? (s : List Char) : Option (List Char) :=
  if s.head? == some '.' || s.head? == some '/' then none
  else if aliasBeginnings.any fun start => startsWith start.toList s then none
  else
    match after? ['n', 'o', 'd', 'e', ':'] s with
    | some rest => some (firstSegment rest)
    | none =>
      if s.contains ':' then none
      else if s.head? == some '@' then
        let scope := firstSegment s
        let name := firstSegment (s.drop (scope.length + 1))
        if name.isEmpty then none else some (scope ++ '/' :: name)
      else some (firstSegment s)

def packageName? (specifier : String) : Option String :=
  (packageOf? specifier.toList).map String.ofList

/-- The packages that a source text imports, in order and each once. -/
def packages (source : List Char) : List String :=
  distinctSorted ((specifiers source).filterMap packageName?)

def isBuiltin (name : String) : Bool :=
  let chars := name.toList
  builtinModules.contains (String.ofList ((after? ['n', 'o', 'd', 'e', ':'] chars).getD chars))

end GapAudit.Modules
