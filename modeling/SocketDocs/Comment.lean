import SocketDocs.Source.Lexer

/-!
# Line comments

The line comments of a source by line. A comment that stands alone on its line may join the one on
the next line into a group; a comment after code never does.
-/

namespace SocketDocs

/-- A line comment: its line, its text without markers and outer blanks, and whether it stands
alone on the line. -/
structure Comment where
  line : Nat
  text : String
  ownLine : Bool
  deriving DecidableEq, Repr

structure CommentGroup where
  first : Nat
  last : Nat
  lines : List String
  deriving DecidableEq, Repr

namespace Comment

def body (text : List Char) : String :=
  String.ofList <| Text.trimChars <|
    match text with
    | '/' :: rest => rest
    | '!' :: rest => rest
    | _ => text

def ofLexeme? (placed : Source.Placed) : Option Comment :=
  match placed.lexeme with
  | .lineComment _ text => some ⟨placed.line, body text, placed.opensLine⟩
  | _ => none

def ofLexemes (lexemes : List Source.Placed) : List Comment :=
  lexemes.filterMap ofLexeme?

def ofSource (source : List Char) : List Comment :=
  ofLexemes (Source.lexemes source)

def ownLine? (comments : List Comment) (line : Nat) : Option String :=
  (comments.find? fun c => c.line == line && c.ownLine).map (·.text)

def trailing? (comments : List Comment) (line : Nat) : Option String :=
  (comments.find? fun c => c.line == line && !c.ownLine).map (·.text)

def prependGroup (comment : Comment) : List CommentGroup → List CommentGroup
  | [] => [⟨comment.line, comment.line, [comment.text]⟩]
  | group :: later =>
    if comment.line + 1 == group.first then
      ⟨comment.line, group.last, comment.text :: group.lines⟩ :: later
    else ⟨comment.line, comment.line, [comment.text]⟩ :: group :: later

def groups (comments : List Comment) : List CommentGroup :=
  (comments.filter (·.ownLine)).foldr prependGroup []

end Comment

end SocketDocs
