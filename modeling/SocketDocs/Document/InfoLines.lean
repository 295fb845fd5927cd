import SocketDocs.Declaration
import SocketDocs.Document.Model

/-!
# General information from comments

Lines such as `@title …` fill in the general part of a document. They are taken from the comments
that open a file, and from those above the function `main`, where blank lines and attributes may
stand in between.
-/

namespace SocketDocs.Info

def setKey (info : Info) (key value : String) : Info :=
  match key with
  | "@title" => { info with title := value }
  | "@version" => { info with version := value }
  | "@description" => { info with description := value }
  | "@contact.name" => { info with contact := { info.contact with name := value } }
  | "@contact.email" => { info with contact := { info.contact with email := value } }
  | "@license.name" => { info with license := { info.license with name := value } }
  | "@license.url" => { info with license := { info.license with url := value } }
  | _ => info

/-- Applies one line; a line without a value changes nothing. -/
def applyLine (info : Info) (line : String) : Info :=
  match Text.words line with
  | [] => info
  | [_] => info
  | key :: words => info.setKey key (" ".intercalate words)

def isMarked (text : String) : Bool :=
  text.toList.head? == some '@'

def markedAt? (comments : List Comment) (line : Nat) : Option String :=
  (Comment.ownLine? comments line).filter isMarked

/-- Annotations on consecutive lines from `line` on; the comments bound how many there are. -/
def headerFrom (comments : List Comment) : Nat → Nat → List String
  | 0, _ => []
  | count + 1, line =>
    match markedAt? comments line with
    | some text => text :: headerFrom comments count (line + 1)
    | none => []

def headerLines (comments : List Comment) : List String :=
  headerFrom comments comments.length 1

def isGap (line : List Char) : Bool :=
  line.isEmpty || ['#', '['].isPrefixOf line

/-- The annotations above a line, nearest first: a comment that is no annotation, or code, ends
them. `above` holds the source lines above, nearest first. -/
def linesAbove (comments : List Comment) : List (List Char) → List String
  | [] => []
  | line :: higher =>
    match Comment.ownLine? comments (higher.length + 1) with
    | some text => if isMarked text then text :: linesAbove comments higher else []
    | none => if isGap line then linesAbove comments higher else []

def mainLines (file : SourceFile) : List String :=
  match (Declaration.ofFile file).find? (·.name == "main") with
  | some main =>
    (linesAbove file.comments (file.trimmedLines.take (main.line - 1)).reverse).reverse
  | none => []

def applyFile (info : Info) (file : SourceFile) : Info :=
  (headerLines file.comments ++ mainLines file).foldl applyLine info

end SocketDocs.Info
