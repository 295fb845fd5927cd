import SocketDocs.Source.Lexeme

/-!
# The lexemes of a Rust source

A source is read into one flat list of lexemes with their lines. Line comments stay in the list,
because annotations live there; other blanks and block comments are dropped. A character that
begins no lexeme is kept as `unknown`, so that reading never stops early.
-/

namespace SocketDocs.Source

inductive Delimiter where
  | parenthesis
  | bracket
  | brace
  deriving DecidableEq, Repr

inductive CommentStyle where
  | plain
  /-- Documents what follows, or with `inner` what surrounds it. -/
  | doc (inner : Bool)
  /-- Documentation with a carriage return inside a line, which no source may hold. -/
  | broken
  deriving DecidableEq, Repr

inductive Lexeme where
  | lineComment (style : CommentStyle) (text : List Char)
  | blockComment (style : CommentStyle)
  | opening (delimiter : Delimiter)
  | closing (delimiter : Delimiter)
  | identifier (name : String)
  | lifetime (name : String)
  | literal (text : String)
  /-- One punctuation character; `joint` if another follows at once. -/
  | punct (char : Char) (joint : Bool)
  | unknown (char : Char)
  deriving DecidableEq, Repr

structure Placed where
  lexeme : Lexeme
  line : Nat
  lastLine : Nat
  /-- Only blanks stand before it on its first line. -/
  opensLine : Bool
  deriving DecidableEq, Repr

structure Position where
  line : Nat
  /-- Only blanks stand before it on its line. -/
  opensLine : Bool
  deriving DecidableEq, Repr

def Position.next (position : Position) (c : Char) : Position :=
  if c == '\n' then ⟨position.line + 1, true⟩
  else ⟨position.line, position.opensLine && Text.isBlank c⟩

def Position.after (position : Position) (cs : List Char) : Position :=
  cs.foldl Position.next position

def hasBareReturn : List Char → Bool
  | [] => false
  | '\r' :: '\n' :: rest => hasBareReturn rest
  | c :: rest => c == '\r' || hasBareReturn rest

def docStyle (inner : Bool) (text : List Char) : CommentStyle :=
  if hasBareReturn text then .broken else .doc inner

/-- The style of a line comment with this text after its slashes. `after` follows the comment: the
return of a line end belongs to that end. -/
def lineCommentStyle (text after : List Char) : CommentStyle :=
  let checked := if after.isEmpty then text else text ++ ['\n']
  match text with
  | '!' :: _ => docStyle true checked
  | '/' :: '/' :: _ => .plain
  | '/' :: _ => docStyle false checked
  | _ => .plain

def blockCommentStyle : List Char → CommentStyle
  | '/' :: '*' :: '*' :: '/' :: _ => .plain
  | '/' :: '*' :: '!' :: rest => docStyle true rest
  | '/' :: '*' :: '*' :: '*' :: _ => .plain
  | '/' :: '*' :: '*' :: rest => docStyle false rest
  | _ => .plain

def openingOf? : Char → Option Delimiter
  | '(' => some .parenthesis
  | '[' => some .bracket
  | '\x7b' => some .brace
  | _ => none

def closingOf? : Char → Option Delimiter
  | ')' => some .parenthesis
  | ']' => some .bracket
  | '\x7d' => some .brace
  | _ => none

def wordLexeme (c : Char) (cs : List Char) : Lexeme × Nat :=
  match Lexeme.literalLength? cs with
  | some n => (.literal (String.ofList (cs.take n)), n)
  | none =>
    match Lexeme.lifetimeLength? cs with
    | some n => (.lifetime (String.ofList (cs.take n)), n)
    | none =>
      if Lexeme.isPunctuation cs then (.punct c (Lexeme.precedesPunctuation (cs.drop 1)), 1)
      else if Lexeme.literalOpenings.any (Lexeme.startsWith · cs) then (.unknown c, 1)
      else
        match Lexeme.identifierLength? cs with
        | some n => (.identifier (String.ofList (cs.take n)), n)
        | none => (.unknown c, 1)

def nextLexeme (c : Char) (cs : List Char) : Option Lexeme × Nat :=
  if Lexeme.startsWith ['/', '/'] cs then
    let n := Lexeme.lineLength cs
    let text := (cs.take n).drop 2
    (some (.lineComment (lineCommentStyle text (cs.drop n)) text), n)
  else if Lexeme.startsWith ['/', '*'] cs then
    match Lexeme.blockCommentLength? cs with
    | some n =>
      match blockCommentStyle (cs.take n) with
      | .plain => (none, n)
      | style => (some (.blockComment style), n)
    | none => (some (.unknown c), 1)
  else if Lexeme.isSpace c then (none, 1)
  else
    match openingOf? c, closingOf? c with
    | some delimiter, _ => (some (.opening delimiter), 1)
    | none, some delimiter => (some (.closing delimiter), 1)
    | none, none =>
      let (lexeme, n) := wordLexeme c cs
      (some lexeme, n)

/-- The lexemes of a text that begins at `position`. Each round takes a character or more, so
`fuel` need not exceed the length of the text. -/
def lexFrom : Nat → Position → List Char → List Placed
  | 0, _, _ => []
  | _ + 1, _, [] => []
  | fuel + 1, position, c :: rest =>
    let (lexeme?, n) := nextLexeme c (c :: rest)
    let taken := (c :: rest).take (max n 1)
    let after := position.after taken
    let others := lexFrom fuel after ((c :: rest).drop (max n 1))
    match lexeme? with
    | some lexeme => ⟨lexeme, position.line, after.line, position.opensLine⟩ :: others
    | none => others

def isPlainComment : Lexeme → Bool
  | .lineComment .plain _ => true
  | _ => false

/-- Whether a source opens with an interpreter line: `#!` that no bracket follows. -/
def hasInterpreterLine (cs : List Char) : Bool :=
  match cs with
  | '#' :: '!' :: rest =>
    let lexemes := (lexFrom rest.length ⟨1, false⟩ rest).map (·.lexeme)
    (lexemes.dropWhile isPlainComment).head? != some (.opening .bracket)
  | _ => false

def byteOrderMark : Char := Char.ofNat 0xFEFF

def dropMark : List Char → List Char
  | c :: rest => if c == byteOrderMark then rest else c :: rest
  | [] => []

/-- The lexemes of a source. A byte order mark is not blank: what follows it does not open the
first line. -/
def lexemes (source : List Char) : List Placed :=
  let body := dropMark source
  let start : Position := ⟨1, body.length == source.length⟩
  if hasInterpreterLine body then
    let n := Lexeme.lineLength body
    lexFrom body.length (start.after (body.take n)) (body.drop n)
  else lexFrom body.length start (dropMark body)

end SocketDocs.Source
