import SocketDocs.Command.Arguments
import SocketDocs.Command.Plan

/-!
# The command line

Reads what a command looks at, and writes what it plans. Everything between is decided by
`Arguments.parse` and `Command.plan`.
-/

namespace SocketDocs.CommandLine

def usage : String :=
  "Usage: wsapi-from-source [OPTIONS] <COMMAND>\n\n" ++
    "Commands:\n" ++
    "  generate  Generate the document from source annotations\n" ++
    "  validate  Check a generated document for structural problems\n" ++
    "  fmt       Write a document in its canonical form\n" ++
    "  help      Print this message\n\n" ++
    "Options:\n" ++
    "  -v, --verbose  Enable verbose output\n" ++
    "  -h, --help     Print help\n" ++
    "  -V, --version  Print version\n"

def refusalText : Refusal → String
  | .help => usage
  | .version => versionText
  | .nothing => usage
  | .missingCommand => "error: a subcommand is required\n\n" ++ usage
  | .unknownCommand => "error: unrecognized subcommand\n\n" ++ usage
  | .unknownArgument => "error: unexpected argument\n\n" ++ usage
  | .invalidValue => "error: invalid or missing value for an option\n\n" ++ usage
  | .repeated => "error: an argument cannot be used multiple times\n\n" ++ usage
  | .excessValue => "error: unexpected value for an option\n\n" ++ usage

def problemOf : IO.Error → FileProblem
  | .noFileOrDirectory .. => .notFound
  | .permissionDenied .. => .noPermission
  | .alreadyExists .. => .alreadyExists
  | .inappropriateType _ code _ => if code == 20 then .notDirectory else .isDirectory
  | _ => .notDirectory

def readFile (path : String) : IO FileNode := do
  try
    return .file (.ofBytes (← IO.FS.readBinFile path))
  catch _ => return .file (.binary []) { read := false }

/-- Reads a directory as far as a search looks at it. The contents of other files than sources are
left out. -/
partial def readDirectory (path : String) : IO FileNode := do
  let directory := (← IO.currentDir) / path
  let listed ← try some <$> directory.readDir catch _ => pure none
  let some listed := listed | return .directory [] { read := false }
  let mut entries := #[]
  for entry in listed do
    let name := entry.fileName
    let inner := FilePath.below path [name]
    if ← entry.path.isDir then
      unless FileNode.isSkipped name (.directory []) do
        entries := entries.push (name, ← readDirectory inner)
    else if FileNode.isSourceName name then
      entries := entries.push (name, ← readFile inner)
  return .directory entries.toList

def readNode (path : String) : IO (Except FileProblem FileNode) := do
  if path.isEmpty then return .error .notFound
  try
    let place := (← IO.currentDir) / path
    match (← place.metadata).type with
    | .dir => return .ok (← readDirectory path)
    | _ => return .ok (← readFile path)
  catch e => return .error (problemOf e)

def writeText (path text : String) : IO (Option Failure) := do
  let above := FilePath.joinNames (((FilePath.ancestors path).drop 1).headD [])
  try
    unless above.isEmpty do IO.FS.createDirAll above
  catch e => return some (.writing (.unwritable above (problemOf e)))
  try
    IO.FS.writeFile path text
    return none
  catch e => return some (.writing (.unwritable path (problemOf e)))

def logLine (line : LogLine) : IO Unit :=
  let level := match line.level with
    | .info => "[INFO] "
    | .warn => "[WARN] "
  IO.eprintln (level ++ line.text)

def reasonText : Reason → String
  | .words text => text
  | .fault fault => fault.message

def reportFailure (failure : Failure) : IO UInt32 := do
  match failure.reasons.map reasonText with
  | [] => pure ()
  | first :: causes =>
    IO.eprintln ("Error: " ++ first)
    unless causes.isEmpty do
      IO.eprintln "\nCaused by:"
      for cause in causes do IO.eprintln ("    " ++ cause)
  return 1

def runPlan (plan : Plan) : IO UInt32 := do
  plan.log.forM logLine
  plan.output.forM (IO.println ·)
  match plan.ending with
  | .done => return 0
  | .fail failure => reportFailure failure
  | .write writing =>
    match ← writeText writing.path writing.text with
    | some failure => reportFailure failure
    | none =>
      writing.log.forM logLine
      return 0

def run (arguments : List String) : IO UInt32 := do
  match Arguments.parse arguments with
  | .error refusal =>
    if refusal.exitCode = 0 then IO.print (refusalText refusal)
    else IO.eprint (refusalText refusal)
    return refusal.exitCode.toUInt32
  | .ok invocation =>
    let found ← readNode invocation.command.input
    runPlan (invocation.command.plan found)

end SocketDocs.CommandLine

def main (arguments : List String) : IO UInt32 :=
  SocketDocs.CommandLine.run arguments
