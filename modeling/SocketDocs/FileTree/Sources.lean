import SocketDocs.FileTree

/-!
# The source files of a tree

Sources are files with the extension `rs`. Hidden files and directories are left out, and so are test
files and the directories for tests, benchmarks and build output. What the root of the search itself
is called does not matter.

A search lists directories and opens no files. So it comes upon directories that it cannot list, and
upon files that cannot be opened later.
-/

namespace SocketDocs

inductive Finding where
  | source (content : Content) (opens : Bool)
  | unlisted
  deriving DecidableEq, Repr

namespace FileNode

def isTestStem (stem : String) : Bool :=
  stem == "test" || stem == "tests" || stem.endsWith "_test" || stem.endsWith "_tests"

def isSourceName (name : String) : Bool :=
  FilePath.extension? name == some "rs" && !isTestStem (FilePath.stem name)

def isSkipped (name : String) (node : FileNode) : Bool :=
  name.startsWith "." ||
    (node.isDirectory && (name == "target" || name == "tests" || name == "benches"))

mutual
/-- What a search comes upon at or below a node, with the names that lead there. `reached` tells
whether the directories above may be gone through. -/
def findingsAt (reached : Bool) (place : List String) (name : String) :
    FileNode → List (List String × Finding)
  | .file content access =>
    if isSourceName name then [(place, .source content (reached && access.read))] else []
  | .directory entries access =>
    if reached && access.read then findingsIn access.search place entries
    else [(place, .unlisted)]

def findingsIn (reached : Bool) (place : List String) :
    List (String × FileNode) → List (List String × Finding)
  | [] => []
  | (name, node) :: rest =>
    (if isSkipped name node then [] else findingsAt reached (place ++ [name]) name node) ++
      findingsIn reached place rest
end

def findings (path : String) (node : FileNode) : List (List String × Finding) :=
  (findingsAt true [] ((FilePath.fileName? path).getD "") node).mergeSort
    fun a b => !decide (b.1 < a.1)

end FileNode

end SocketDocs
