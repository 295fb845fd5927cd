import SocketDocs.FileTree

/-!
# Faults

What keeps a document from being made, read or written.
-/

namespace SocketDocs

inductive Fault where
  | unreadable (path : String) (problem : FileProblem)
  | unparsable (path : String)
  | unwritable (path : String) (problem : FileProblem)
  | badRoot (path : String)
  | malformed
  deriving DecidableEq, Repr

namespace Fault

def message : Fault → String
  | .unreadable path problem => "failed to read " ++ path ++ ": " ++ problem.text
  | .unparsable path => "failed to parse " ++ path
  | .unwritable path problem => "failed to write " ++ path ++ ": " ++ problem.text
  | .badRoot path => "invalid argument: source root is not a directory: " ++ path
  | .malformed => "serialization error"

def problem? : Fault → Option FileProblem
  | .unreadable _ problem => some problem
  | .unwritable _ problem => some problem
  | _ => none

end Fault

end SocketDocs
