import GapAudit.CommandLine.Run
import Std.Time.DateTime

/-!
The command line program: it reads the files that a run may look at, runs the request in its
arguments, writes what it says and the files that it changes, and ends with its status.
-/

open GapAudit

namespace Main

def helpLines : List String :=
  ["Finds the gaps in a React project written in TypeScript.", "",
    "Usage: gapcheck [--verbose] <command>", "", "Commands:",
    "  verify [path]  Analyze a project and report its gaps",
    "                 --config <file> --format <pretty|json|markdown> --output-dir <folder>",
    "                 --threshold <score> --skip-typecheck --analyzers <names>",
    "  init           Create a configuration from a template",
    "                 --output <file> --template <name> --force --list",
    "  help           Print this message"]

def now : IO Timestamp := do
  let time ← Std.Time.Timestamp.now
  let nanoseconds : Int := time.toNanosecondsSinceUnixEpoch.val
  return ⟨nanoseconds / 1000000000, (nanoseconds % 1000000000).toNat⟩

/-- The path without links that a path leads to. -/
def realPath? (path : String) : IO (Option String) := do
  try return some (← IO.FS.realPath path).toString catch _ => return none

/-- What stands at a path without links, with everything below it. The paths that links below it
lead to are added to `targets`. -/
partial def read (targets : List String) (path : String) : IO (FileTree × List String) := do
  let real ← IO.FS.realPath path
  if ← real.isDir then
    let mut targets := targets
    let mut entries := []
    for entry in ← real.readDir do
      let below := Path.join path entry.fileName
      match ← realPath? below with
      | none => entries := (entry.fileName, .link "\x00") :: entries
      | some target =>
        if target == below then
          let (inside, more) ← read targets below
          targets := more
          entries := (entry.fileName, inside) :: entries
        else
          targets := target :: targets
          entries := (entry.fileName, .link target) :: entries
    return (.folder entries, targets)
  else return (.file (← IO.FS.readBinFile real), targets)

/-- The tree with everything that stands at and below paths without links, and everything that links
there lead to, but for what stands below paths that have been read. -/
partial def readAll (tree : FileTree) (known : List String) : List String → IO FileTree
  | [] => return tree
  | path :: rest => do
    if known.any fun folder => Path.isUnder folder path then readAll tree known rest
    else
      let (entry, targets) ← read [] path
      readAll (tree.put entry (Path.components path)) (path :: known) (targets ++ rest)

/-- The tree with what stands on the way from a path without links along components, and where that
leads. -/
def readAlong (tree : FileTree) (path : String) : List String → IO (FileTree × Option String)
  | [] => do
    if ← (← IO.FS.realPath path).isDir then
      return (tree.putFolder (Path.components path), some path)
    else return (tree.put (.file (← IO.FS.readBinFile path)) (Path.components path), some path)
  | ".." :: rest => readAlong tree (Path.parent path) rest
  | name :: rest => do
    let below := Path.join path name
    match ← realPath? below with
    | none => return (tree.putFolder (Path.components path), none)
    | some target =>
      if target == below || name == "." then readAlong tree target rest
      else readAlong (tree.put (.link target) (Path.components below)) target rest

/-- The tree with what a request may look at. -/
def readFor (here : String) (request : Request) : IO FileTree := do
  let along (tree : FileTree) (path : String) : IO (FileTree × Option String) :=
    readAlong tree "/" (Path.components (Path.join here path))
  let (tree, _) ← along .empty "."
  match request with
  | .init request => return (← along tree request.path).1
  | .verify request =>
    let (tree, root) ← along tree request.path
    let mut tree ← readAll tree [] root.toList
    for path in request.overrides.configFile.toList do
      tree := (← along tree path).1
    for folder in request.outputFolder.toList do
      let paths := OutputPaths.ofFolder folder ""
      tree := (← along tree paths.latestJson).1
      tree := (← along tree paths.latestMarkdown).1
    return tree

/-- Runs a request in the working folder and gives the exit status. -/
def run (request : Request) : IO UInt32 := do
  let here := (← IO.FS.realPath ".").toString
  let stdout ← IO.getStdout
  let tree ← readFor here request
  let color := (← IO.getEnv "NO_COLOR").isNone && (← stdout.isTty)
  let transcript := request.run { tree, here, now := ← now, color }
  stdout.putStr transcript.output
  (← IO.getStderr).putStr transcript.complaint
  for (place, content) in tree.changedFiles transcript.tree do
    let path := "/" ++ "/".intercalate place
    IO.FS.createDirAll (Path.parent path)
    IO.FS.writeBinFile path content
  match transcript.ending with
  | .status code => return code.toUInt32
  | .failed message =>
    IO.eprintln s!"Error: {message}"
    return 2

end Main

def main (arguments : List String) : IO UInt32 := do
  match Request.ofWords arguments with
  | .ok request => Main.run request
  | .error .help =>
    IO.print (Text.ofLines Main.helpLines)
    return 0
  | .error .version =>
    IO.println s!"{Terminal.programName} {Terminal.programVersion}"
    return 0
  | .error e =>
    IO.eprintln s!"error: {e.message}"
    return 2
