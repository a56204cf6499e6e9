import GapAudit.Tools

/-!
Programs that can be started where there is no system to start others: one that prints files and one
that runs a script of simple commands.
-/

namespace GapAudit.Shell

/-- Why a program cannot be started. -/
inductive Obstacle where
  | notFound
  | notAllowed
  | notAFolder
  deriving DecidableEq, Repr

def Obstacle.message : Obstacle → String
  | .notFound => "No such file or directory (os error 2)"
  | .notAllowed => "Permission denied (os error 13)"
  | .notAFolder => "Not a directory (os error 20)"

def append (a b : ProgramOutput) : ProgramOutput :=
  ⟨a.out ++ b.out, a.err ++ b.err⟩

def bytesOf (s : List Char) : List UInt8 :=
  s.flatMap String.utf8EncodeChar

/-- The contents of files one after the other, and a complaint about each that is missing. Whether
all were there comes second. -/
def printFiles (tree : FileTree) (folder : String) : List String → ProgramOutput × Bool
  | [] => ({}, true)
  | path :: rest =>
    let (more, ok) := printFiles tree folder rest
    match tree.bytes? (Path.join folder path) with
    | some content => (append ⟨content.data.toList, []⟩ more, ok)
    | none =>
      (append ⟨[], bytesOf s!"cat: {path}: No such file or directory\n".toList⟩ more, false)

/-- A word of a script: text, or an operator between commands. -/
inductive Word where
  | text (s : List Char)
  | operator (s : List Char)
  deriving DecidableEq

/-- How a reader of a script takes the next character. -/
inductive Quoting where
  | none
  | single
  | double

/-- The words of a script; `word` is the reversed text of the word that is being read. -/
def wordsFrom : Quoting → (word : Option (List Char)) → List Char → List Word
  | _, word, [] => word.toList.map fun w => .text w.reverse
  | .single, word, c :: s =>
    if c == '\'' then wordsFrom .none word s
    else wordsFrom .single (some (c :: word.getD [])) s
  | .double, word, '\\' :: c :: s =>
    -- before all other characters the backslash stands for itself
    if c == '"' || c == '\\' || c == '$' || c == '\x60' then
      wordsFrom .double (some (c :: word.getD [])) s
    else wordsFrom .double (some (c :: '\\' :: word.getD [])) s
  | .double, word, c :: s =>
    if c == '"' then wordsFrom .none word s
    else wordsFrom .double (some (c :: word.getD [])) s
  | .none, word, '\\' :: c :: s => wordsFrom .none (some (c :: word.getD [])) s
  | .none, word, '&' :: '&' :: s =>
    (word.toList.map fun w => Word.text w.reverse) ++ .operator ['&', '&'] :: wordsFrom .none none s
  | .none, word, '|' :: '|' :: s =>
    (word.toList.map fun w => Word.text w.reverse) ++ .operator ['|', '|'] :: wordsFrom .none none s
  | .none, word, c :: s =>
    -- a quote begins a word even if nothing stands inside
    if c == '\'' then wordsFrom .single (some (word.getD [])) s
    else if c == '"' then wordsFrom .double (some (word.getD [])) s
    else if c == ';' || c == '\n' then
      (word.toList.map fun w => Word.text w.reverse) ++ .operator [';'] :: wordsFrom .none none s
    else if c == ' ' || c == '\t' then
      (word.toList.map fun w => Word.text w.reverse) ++ wordsFrom .none none s
    else wordsFrom .none (some (c :: word.getD [])) s

/-- The commands of a script, each with the operator before it. -/
def commandsFrom (operator : List Char) (command : List (List Char)) :
    List Word → List (List Char × List (List Char))
  | [] => [(operator, command.reverse)]
  | .text w :: rest => commandsFrom operator (w :: command) rest
  | .operator o :: rest => (operator, command.reverse) :: commandsFrom o [] rest

/-- A text in which escapes stand for characters. -/
def unescape : List Char → List Char
  | '\\' :: 'n' :: s => '\n' :: unescape s
  | '\\' :: 't' :: s => '\t' :: unescape s
  | '\\' :: 'r' :: s => '\r' :: unescape s
  | '\\' :: '\\' :: s => '\\' :: unescape s
  | c :: s => c :: unescape s
  | [] => []

/-- A format with its place holders filled in from the arguments, in their order. -/
def fillFormat : (arguments : List (List Char)) → List Char → List Char
  | arguments, '%' :: '%' :: s => '%' :: fillFormat arguments s
  | arguments, '%' :: 's' :: s => arguments.headD [] ++ fillFormat arguments.tail s
  | arguments, c :: s => c :: fillFormat arguments s
  | _, [] => []

def redirections : List (List Char) :=
  ["1>&2", ">&2", "2>&1", ">/dev/null", "1>/dev/null", "2>/dev/null"].map String.toList

/-- The output of a command after a redirection. -/
def redirect (output : ProgramOutput) (redirection : List Char) : ProgramOutput :=
  if redirection == ['1', '>', '&', '2'] || redirection == ['>', '&', '2'] then
    ⟨[], output.out ++ output.err⟩
  else if redirection == ['2', '>', '&', '1'] then ⟨output.out ++ output.err, []⟩
  else if redirection.head? == some '2' then ⟨output.out, []⟩
  else ⟨[], output.err⟩

/-- The output of one command of a script, and whether it succeeded. -/
def runSimple (tree : FileTree) (folder : String) (command : List (List Char)) :
    ProgramOutput × Bool :=
  let words := command.filter fun w => !redirections.contains w
  let (output, ok) :=
    match words.map String.ofList with
    | [] => ({}, true)
    | "echo" :: _ =>
      let line := unescape ([' '].intercalate (words.drop 1))
      (⟨bytesOf (line ++ ['\n']), []⟩, true)
    | "printf" :: _ =>
      let format := (words.drop 1).headD []
      (⟨bytesOf (fillFormat (words.drop 2) (unescape format)), []⟩, true)
    | "/bin/cat" :: paths => printFiles tree folder paths
    | ["true"] | [":"] => ({}, true)
    | ["false"] => ({}, false)
    | name :: _ => (⟨[], bytesOf s!"{name}: not found\n".toList⟩, false)
  -- redirections may stand between the words, and each sees what the one before has left
  ((command.filter redirections.contains).foldl redirect output, ok)

/-- The output of the commands of a script, given whether the last one succeeded. A command behind
`&&` runs only after success, one behind `||` only after failure, and `exit` ends the script. -/
def runCommands (tree : FileTree) (folder : String) (ok : Bool) :
    List (List Char × List (List Char)) → ProgramOutput
  | [] => {}
  | (operator, command) :: rest =>
    if (operator == ['&', '&'] && !ok) || (operator == ['|', '|'] && ok) then
      runCommands tree folder ok rest
    else if command.head? == some ['e', 'x', 'i', 't'] then {}
    else
      let (output, ok) := runSimple tree folder command
      append output (runCommands tree folder ok rest)

def runScript (tree : FileTree) (folder : String) (script : List Char) : ProgramOutput :=
  runCommands tree folder true (commandsFrom [';'] [] (wordsFrom .none none script))

/-- What comes of starting a program with arguments in a folder. A name without a slash is found
nowhere, and files of the tree may not be run. -/
def start (tree : FileTree) (folder program : String) (arguments : List String) :
    Except Obstacle ProgramOutput :=
  if program == "/bin/cat" then .ok (printFiles tree folder arguments).1
  else if program == "/bin/sh" then
    match arguments with
    | "-c" :: script :: _ => .ok (runScript tree folder script.toList)
    | path :: _ =>
      .ok (((tree.text? (Path.join folder path)).map fun s =>
        runScript tree folder s.toList).getD {})
    | [] => .ok {}
  else if !program.toList.contains '/' then .error .notFound
  else
    let path := Path.join folder program
    let components := Path.components path
    let passesFile := (List.range (components.length + 1)).any fun n =>
      tree.isFile ("/" ++ "/".intercalate (components.take n))
    if tree.pathExists path then .error .notAllowed
    else if passesFile then .error .notAFolder
    else .error .notFound

end GapAudit.Shell
