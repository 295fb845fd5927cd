/-!
# File paths

A path is a text whose parts are separated by slashes. Empty parts, and single points after the
first part, mean nothing.
-/

namespace SocketDocs.FilePath

inductive Component where
  | root
  | current
  | parent
  | name (text : String)
  deriving DecidableEq, Repr

/-- Splits at every slash. `part` holds the current part in reverse. -/
def splitSlashes (part : List Char) : List Char → List (List Char)
  | [] => [part.reverse]
  | c :: rest => if c == '/' then part.reverse :: splitSlashes [] rest else splitSlashes (c :: part) rest

def component? : List Char → Option Component
  | [] => none
  | ['.'] => none
  | ['.', '.'] => some .parent
  | text => some (.name (String.ofList text))

def components (path : String) : List Component :=
  let parts := splitSlashes [] path.toList
  let opening :=
    match parts with
    | [] :: _ :: _ => [.root]
    | ['.'] :: _ => [Component.current]
    | _ => []
  opening ++ parts.filterMap component?

def fileName? (path : String) : Option String :=
  match (components path).getLast? with
  | some (.name text) => some text
  | _ => none

def parentName? (path : String) : Option String :=
  match (components path).dropLast.getLast? with
  | some (.name text) => some text
  | _ => none

/-- A file name without its last extension, and that extension. A point at the start belongs to the
name. -/
def splitName (name : String) : List Char × Option (List Char) :=
  let reversed := name.toList.reverse
  let after := reversed.takeWhile (· != '.')
  match reversed.drop after.length with
  | [] => (name.toList, none)
  | _ :: [] => (name.toList, none)
  | _ :: before => (before.reverse, some after.reverse)

def stem (name : String) : String :=
  String.ofList (splitName name).1

def extension? (name : String) : Option String :=
  (splitName name).2.map String.ofList

def joinNames (names : List String) : String :=
  "/".intercalate names

def parts (path : String) : List String :=
  (splitSlashes [] path.toList).map String.ofList

/-- Whether a list of parts ends in one that means something. A single point does at the start
only. -/
def endsInComponent (parts : List String) : Bool :=
  match parts.getLast? with
  | none => true
  | some "" => false
  | some "." => parts.length == 1
  | some _ => true

/-- A path without what means nothing at its end, then its parent, and so on up to the empty path. -/
def ancestors (path : String) : List (List String) :=
  let parts := parts path
  ((List.range (parts.length + 1)).reverse.map (parts.take ·)).filter endsInComponent

def below (path : String) (names : List String) : String :=
  if names.isEmpty then path
  else if path.endsWith "/" then path ++ joinNames names
  else path ++ "/" ++ joinNames names

end SocketDocs.FilePath
