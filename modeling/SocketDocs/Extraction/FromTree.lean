import SocketDocs.Extraction
import SocketDocs.Fault
import SocketDocs.FileTree.Sources

/-!
# Extraction from a file tree
-/

namespace SocketDocs

structure FoundFile where
  path : String
  content : Content
  opens : Bool
  deriving DecidableEq, Repr

def FoundFile.load (found : FoundFile) : Except Fault SourceFile :=
  if found.opens then
    match found.content with
    | .binary _ => .error (.unreadable found.path .notText)
    | .text text =>
      match SourceFile.parse? found.path text with
      | some file => .ok file
      | none => .error (.unparsable found.path)
  else .error (.unreadable found.path .noPermission)

def Finding.file (path : String) (found : List String × Finding) : Except Fault FoundFile :=
  let place := FilePath.below path found.1
  match found.2 with
  | .source content opens => .ok ⟨place, content, opens⟩
  | .unlisted => .error (.unreadable place .noPermission)

namespace Extraction

def ofSources (sources : List FoundFile) : Except Fault Extraction := do
  let files ← sources.mapM FoundFile.load
  return ofFiles files

/-- Searches a node for source files; the first directory that cannot be listed is the fault. -/
def search (path : String) (node : FileNode) : Except Fault (List FoundFile) :=
  (node.findings path).mapM (Finding.file path)

def scan (path : String) (found : Except FileProblem FileNode) :
    Except Fault (List (String × Content)) :=
  match found with
  | .ok node => (search path node).map (·.map fun file => (file.path, file.content))
  | .error problem => .error (.unreadable path problem)

def ofRoot (path : String) (found : Except FileProblem FileNode) : Except Fault Extraction :=
  match found with
  | .ok (.directory entries access) => do ofSources (← search path (.directory entries access))
  | _ => .error (.badRoot path)

end Extraction

end SocketDocs
