import SocketDocs.FilePath

/-!
# File trees

A directory holds files and directories by name, each with what may be done with it. Paths are read
from the working directory, which is the top of the tree: to go up from it leads nowhere else.
-/

namespace SocketDocs

inductive Content where
  | text (text : String)
  | binary (bytes : List UInt8)
  deriving DecidableEq, Repr

def Content.ofBytes (bytes : ByteArray) : Content :=
  match String.fromUTF8? bytes with
  | some decoded => .text decoded
  | none => .binary bytes.toList

/-- What may be done with a file or a directory: to open or list it, to write it or add entries, and
to go through it. -/
structure Access where
  read : Bool := true
  write : Bool := true
  search : Bool := true
  deriving DecidableEq, Repr

inductive FileNode where
  | file (content : Content) (access : Access := {})
  | directory (entries : List (String × FileNode)) (access : Access := {})
  deriving Repr

inductive FileProblem where
  | notFound
  | noPermission
  | alreadyExists
  | notDirectory
  | isDirectory
  | notText
  deriving DecidableEq, Repr

def FileProblem.text : FileProblem → String
  | .notFound => "No such file or directory (os error 2)"
  | .noPermission => "Permission denied (os error 13)"
  | .alreadyExists => "File exists (os error 17)"
  | .notDirectory => "Not a directory (os error 20)"
  | .isDirectory => "Is a directory (os error 21)"
  | .notText => "stream did not contain valid UTF-8"

namespace FileNode

def at? : FileNode → List String → Option FileNode
  | node, [] => some node
  | .file _ _, _ :: _ => none
  | .directory entries _, name :: rest =>
    match entries.lookup name with
    | some node => node.at? rest
    | none => none

def isDirectory : FileNode → Bool
  | .directory _ _ => true
  | .file _ _ => false

def text? : FileNode → Except FileProblem String
  | .file content access =>
    if access.read then
      match content with
      | .text text => .ok text
      | .binary _ => .error .notText
    else .error .noPermission
  | .directory _ access => .error (if access.read then .isDirectory else .noPermission)

mutual
def files (place : List String) : FileNode → List (List String × Content)
  | .file content _ => [(place, content)]
  | .directory entries _ => filesIn place entries

def filesIn (place : List String) : List (String × FileNode) → List (List String × Content)
  | [] => []
  | (name, node) :: rest => files (place ++ [name]) node ++ filesIn place rest
end

end FileNode

structure FileTree where
  entries : List (String × FileNode) := []
  access : Access := {}
  deriving Repr

namespace FileTree

def setEntry (name : String) (node : FileNode) :
    List (String × FileNode) → List (String × FileNode)
  | [] => [(name, node)]
  | (other, old) :: rest =>
    if other == name then (name, node) :: rest else (other, old) :: setEntry name node rest

theorem lookup_setEntry_self (name : String) (node : FileNode)
    (entries : List (String × FileNode)) :
    (setEntry name node entries).lookup name = some node := by
  induction entries with
  | nil => simp [setEntry]
  | cons entry rest ih =>
    obtain ⟨other, old⟩ := entry
    by_cases h : other = name
    · simp [setEntry, h]
    · have hb : (name == other) = false := by simpa using Ne.symm h
      simp [setEntry, h, List.lookup_cons, hb, ih]

theorem lookup_setEntry_of_ne {name asked : String} (h : asked ≠ name) (node : FileNode)
    (entries : List (String × FileNode)) :
    (setEntry name node entries).lookup asked = entries.lookup asked := by
  have ha : (asked == name) = false := by simpa using h
  induction entries with
  | nil => simp [setEntry, List.lookup_cons, ha]
  | cons entry rest ih =>
    obtain ⟨other, old⟩ := entry
    by_cases ho : other = name
    · subst ho
      simp [setEntry, List.lookup_cons, ha]
    · simp [setEntry, ho, List.lookup_cons, ih]

/-- Puts a node at a place below a directory. Missing directories on the way are made; a file on the
way stays as it is, and nothing is put. -/
def putIn (node : FileNode) :
    List String → List (String × FileNode) → List (String × FileNode)
  | [], entries => entries
  | [name], entries => setEntry name node entries
  | name :: rest, entries =>
    match (entries.lookup name).getD (.directory []) with
    | .directory inner access => setEntry name (.directory (putIn node rest inner) access) entries
    | .file _ _ => entries

def put (tree : FileTree) (place : List String) (node : FileNode) : FileTree :=
  { tree with entries := putIn node place tree.entries }

def top (tree : FileTree) : FileNode :=
  .directory tree.entries tree.access

def at? (tree : FileTree) (place : List String) : Option FileNode :=
  tree.top.at? place

def files (tree : FileTree) : List (List String × Content) :=
  FileNode.filesIn [] tree.entries

/-! ## Reading -/

/-- Goes on from a place along the parts of a path. Each of them needs a directory to start from, and
all but empty ones one that may be gone through. -/
def follow (tree : FileTree) : List String → List String → Except FileProblem (List String)
  | place, [] => .ok place
  | place, part :: rest =>
    match tree.at? place with
    | some (.directory entries access) =>
      if part == "" then follow tree place rest
      else if !access.search then .error .noPermission
      else if part == "." then follow tree place rest
      else if part == ".." then follow tree place.dropLast rest
      else if (entries.lookup part).isSome then follow tree (place ++ [part]) rest
      else .error .notFound
    | some (.file _ _) => .error .notDirectory
    | none => .error .notFound

def node? (tree : FileTree) (path : String) : Except FileProblem FileNode := do
  if path.isEmpty then throw .notFound
  let place ← tree.follow [] (FilePath.parts path)
  match tree.at? place with
  | some node => return node
  | none => throw .notFound

/-! ## Writing -/

structure FoundDirectory where
  place : List String
  entries : List (String × FileNode)
  access : Access

def directory? (tree : FileTree) (parts : List String) : Except FileProblem FoundDirectory := do
  let place ← tree.follow [] parts
  match tree.at? place with
  | some (.directory entries access) => return { place, entries, access }
  | some (.file _ _) => throw .notDirectory
  | none => throw .notFound

def searched? (tree : FileTree) (parts : List String) : Except FileProblem FoundDirectory := do
  let found ← tree.directory? parts
  if found.access.search then return found else throw .noPermission

def isDots (part : String) : Bool :=
  part == "" || part == "." || part == ".."

def makeDirectory (tree : FileTree) (parts : List String) : Except FileProblem FileTree := do
  let above ← tree.searched? parts.dropLast
  let name := parts.getLastD ""
  if isDots name || (above.entries.lookup name).isSome then throw .alreadyExists
  if above.access.write then return tree.put (above.place ++ [name]) (.directory [])
  else throw .noPermission

/-- A directory that cannot be made is no problem if it is there. -/
def unlessThere (tree : FileTree) (parts : List String) (problem : FileProblem) :
    Option FileProblem :=
  match tree.directory? parts with
  | .ok _ => none
  | .error _ => some problem

/-- Makes the first directory of a list. Those after it are its ancestors and are made before it if
one of them is missing. -/
def makeDirectories (tree : FileTree) : List (List String) → FileTree × Option FileProblem
  | [] => (tree, none)
  | [] :: _ => (tree, none)
  | parts :: above =>
    match tree.makeDirectory parts with
    | .ok made => (made, none)
    | .error .notFound =>
      match makeDirectories tree above with
      | (tree, none) =>
        match tree.makeDirectory parts with
        | .ok made => (made, none)
        | .error problem => (tree, tree.unlessThere parts problem)
      | failed => failed
    | .error problem => (tree, tree.unlessThere parts problem)

def written? (above : Access) (text : String) : Option FileNode → Except FileProblem FileNode
  | some (.directory _ _) => .error .isDirectory
  | some (.file _ access) =>
    if access.write then .ok (.file (.text text) access) else .error .noPermission
  | none => if above.write then .ok (.file (.text text)) else .error .noPermission

def writeFile (tree : FileTree) (path text : String) : Except FileProblem FileTree := do
  if path.isEmpty then throw .notFound
  let parts := FilePath.parts path
  let named := (parts.reverse.dropWhile (· == "")).reverse
  let above ← tree.searched? named.dropLast
  let name := named.getLastD ""
  if named.length < parts.length || isDots name then throw .isDirectory
  let node ← written? above.access text (above.entries.lookup name)
  return tree.put (above.place ++ [name]) node

def save (tree : FileTree) (path text : String) : FileTree × Option (String × FileProblem) :=
  let above := (FilePath.ancestors path).drop 1
  match tree.makeDirectories above with
  | (tree, some problem) => (tree, some (FilePath.joinNames (above.headD []), problem))
  | (tree, none) =>
    match tree.writeFile path text with
    | .ok written => (written, none)
    | .error problem => (tree, some (path, problem))

end FileTree

end SocketDocs
