import SocketDocs.Command
import SocketDocs.Document.Defaults
import SocketDocs.Document.Validation
import SocketDocs.Extraction.FromTree

/-!
# What commands do

A command looks at one path. From what it finds there follow the lines that it logs and prints, and
either a failure or at most one file to write.
-/

namespace SocketDocs

inductive LogLevel where
  | info
  | warn
  deriving DecidableEq, Repr

structure LogLine where
  level : LogLevel
  text : String
  deriving DecidableEq, Repr

inductive Failure where
  | noSourceDirectory (path : String)
  | extraction (path : String) (fault : Fault)
  | loading (path : String) (fault : Fault)
  | writing (fault : Fault)
  | invalid (path : String) (count : Nat)
  deriving DecidableEq, Repr

inductive Reason where
  | words (text : String)
  | fault (fault : Fault)
  deriving DecidableEq, Repr

namespace Failure

def reasonsOf (fault : Fault) : List Reason :=
  .fault fault :: (fault.problem?.map fun problem => Reason.words problem.text).toList

/-- What went wrong, from the outside in. -/
def reasons : Failure → List Reason
  | .noSourceDirectory path => [.words ("Source path is not a directory: " ++ path)]
  | .extraction path fault =>
    .words ("Failed to extract documentation from " ++ path) :: reasonsOf fault
  | .loading path fault => .words ("Failed to load " ++ path) :: reasonsOf fault
  | .writing fault => reasonsOf fault
  | .invalid path count => [.words (toString count ++ " validation errors in " ++ path)]

end Failure

structure Writing where
  path : String
  text : String
  log : List LogLine
  deriving DecidableEq, Repr

inductive Ending where
  | done
  | write (writing : Writing)
  | fail (failure : Failure)
  deriving DecidableEq, Repr

structure Plan where
  log : List LogLine := []
  output : List String := []
  ending : Ending
  deriving DecidableEq, Repr

namespace Plan

def info (text : String) : LogLine := ⟨.info, text⟩

def warn (text : String) : LogLine := ⟨.warn, text⟩

/-! ## Generation -/

def formatName : Format → String
  | .yaml => "Yaml"
  | .json => "Json"

def summary (extraction : Extraction) (output : String) : List LogLine :=
  [info "Generation complete!",
    info "Summary:",
    info ("  - Endpoints: " ++ toString extraction.document.endpoints.length),
    info ("  - Warnings: " ++ toString extraction.diagnostics.length),
    info ("  - Output: " ++ output)]

def extractionLog (source : String) (extraction : Extraction) : List LogLine :=
  extraction.diagnostics.map (fun diagnostic => warn diagnostic.text) ++
    [info ("Extracted " ++ toString extraction.document.endpoints.length ++ " endpoints (" ++
      toString extraction.diagnostics.length ++ " warnings)")] ++
    (if extraction.document.endpoints.isEmpty then
      [warn ("No @WebSocket annotations found in " ++ source)]
    else [])

def generateFrom (source output : String) (format : Format)
    (searched : Except Fault (List FoundFile)) : Plan :=
  let started := [info ("Parsing Rust files in " ++ source ++ "..."), info ("Scanning " ++ source)]
  match searched with
  | .error fault => { log := started, ending := .fail (.extraction source fault) }
  | .ok sources =>
    let scanned := started ++ [info ("Found " ++ toString sources.length ++ " Rust files")]
    match Extraction.ofSources sources with
    | .error fault => { log := scanned, ending := .fail (.extraction source fault) }
    | .ok extraction =>
      { log :=
          scanned ++ extractionLog source extraction ++
            [info ("Serializing to " ++ formatName format ++ " format...")]
        ending := .write {
          path := output
          text := extraction.document.withDefaults.text format
          log := summary extraction output } }

def generate (source output : String) (format : Format)
    (found : Except FileProblem FileNode) : Plan :=
  match found with
  | .ok (.directory entries access) =>
    generateFrom source output format (Extraction.search source (.directory entries access))
  | _ => { ending := .fail (.noSourceDirectory source) }

/-! ## Documents on file -/

def load (path : String) (found : Except FileProblem FileNode) : Except Fault Document :=
  match found.bind FileNode.text? with
  | .error problem => .error (.unreadable path problem)
  | .ok text =>
    match Document.ofYaml? text with
    | some document => .ok document
    | none => .error .malformed

def validate (file : String) (found : Except FileProblem FileNode) : Plan :=
  match load file found with
  | .error fault => { ending := .fail (.loading file fault) }
  | .ok document =>
    match document.problems with
    | [] => { output := [file ++ " is valid"], ending := .done }
    | problems =>
      { output :=
          (file ++ " has validation errors:") :: problems.map fun problem =>
            "  - " ++ problem.message
        ending := .fail (.invalid file problems.length) }

def reformatLine (file output : String) : LogLine :=
  if FilePath.components output = FilePath.components file then info ("Formatted " ++ file)
  else info ("Formatted " ++ file ++ " -> " ++ output)

def reformat (file : String) (output : Option String)
    (found : Except FileProblem FileNode) : Plan :=
  match load file found with
  | .error fault => { ending := .fail (.loading file fault) }
  | .ok document =>
    let target := output.getD file
    { ending := .write {
        path := target, text := document.text .yaml, log := [reformatLine file target] } }

end Plan

namespace Command

def input : Command → String
  | .generate source _ _ => source
  | .validate file => file
  | .reformat file _ => file

def plan (command : Command) (found : Except FileProblem FileNode) : Plan :=
  match command with
  | .generate source output format => Plan.generate source output format found
  | .validate file => Plan.validate file found
  | .reformat file output => Plan.reformat file output found

structure Outcome where
  tree : FileTree
  log : List LogLine
  output : List String
  failure : Option Failure

def run (command : Command) (tree : FileTree) : Outcome :=
  let plan := command.plan (tree.node? command.input)
  match plan.ending with
  | .done => { tree, log := plan.log, output := plan.output, failure := none }
  | .fail failure => { tree, log := plan.log, output := plan.output, failure := some failure }
  | .write writing =>
    match tree.save writing.path writing.text with
    | (tree, none) =>
      { tree, log := plan.log ++ writing.log, output := plan.output, failure := none }
    | (tree, some (path, problem)) =>
      { tree, log := plan.log, output := plan.output
        failure := some (.writing (.unwritable path problem)) }

end Command

end SocketDocs
