import SocketDocs.Comment
import SocketDocs.FilePath
import SocketDocs.Source.Grammar

/-!
# Source files

A source file that has been read: its lines, its items and its line comments.
-/

namespace SocketDocs

structure SourceFile where
  path : String
  text : String
  items : List Source.Item
  comments : List Comment

namespace SourceFile

/-- Reads a source; `none` if it is not valid Rust. -/
def parse? (path text : String) : Option SourceFile :=
  let lexemes := Source.lexemes text.toList
  (Source.itemsOf? lexemes).map fun items =>
    { path, text, items, comments := Comment.ofLexemes lexemes }

/-- The module that the file's declarations belong to. Files at the root of a program are `crate`;
a directory's own file is named for the directory. -/
def moduleName (path : String) : String :=
  match FilePath.fileName? path with
  | none => ""
  | some name =>
    match FilePath.stem name with
    | "lib" => "crate"
    | "main" => "crate"
    | "mod" => (FilePath.parentName? path).getD "crate"
    | stem => stem

def linesFrom (line : List Char) : List Char → List (List Char)
  | [] => [line.reverse]
  | c :: rest => if c == '\n' then line.reverse :: linesFrom [] rest else linesFrom (c :: line) rest

def trimmedLines (file : SourceFile) : List (List Char) :=
  (linesFrom [] file.text.toList).map Text.trimChars

end SourceFile

end SocketDocs
