/-!
# Places in a YAML text

The classes of characters that YAML tells apart, and a cursor that counts lines and columns.
-/

namespace SocketDocs.Yaml

def isAllowed (c : Char) : Bool :=
  let n := c.toNat
  n == 0x09 || n == 0x0A || n == 0x0D || (0x20 ≤ n && n ≤ 0x7E) || n == 0x85 ||
    (0xA0 ≤ n && n ≤ 0xFFFD) || 0x10000 ≤ n

def isBreak (c : Char) : Bool :=
  c == '\r' || c == '\n' || c.toNat == 0x85 || c.toNat == 0x2028 || c.toNat == 0x2029

def isBlank (c : Char) : Bool :=
  c == ' ' || c == '\t'

def isWordChar (c : Char) : Bool :=
  c.isAlphanum || c == '_' || c == '-'

def isFlowIndicator (c : Char) : Bool :=
  c == ',' || c == '[' || c == ']' || c == '\x7b' || c == '\x7d'

/-- What is left of a text, and how much of it lies behind. No more than `bound` characters are
left. -/
structure Cursor where
  rest : List Char
  bound : Nat
  index : Nat := 0
  line : Nat := 0
  column : Nat := 0

namespace Cursor

def char? (cursor : Cursor) : Option Char :=
  cursor.rest.head?

def ahead? (cursor : Cursor) (n : Nat) : Option Char :=
  cursor.rest[n]?

def sees (cursor : Cursor) (c : Char) : Bool :=
  cursor.char? == some c

def seesAt (cursor : Cursor) (n : Nat) (c : Char) : Bool :=
  cursor.ahead? n == some c

def atEnd (cursor : Cursor) : Bool :=
  cursor.rest.isEmpty

def endsWord (cursor : Cursor) (n : Nat) : Bool :=
  (cursor.ahead? n).all fun c => isBlank c || isBreak c

def seesBlank (cursor : Cursor) : Bool :=
  cursor.char?.any isBlank

def seesBreak (cursor : Cursor) : Bool :=
  cursor.char?.any isBreak

def endsLine (cursor : Cursor) : Bool :=
  cursor.char?.all isBreak

def next (cursor : Cursor) : Cursor :=
  match cursor.rest with
  | [] => cursor
  | _ :: rest => { cursor with rest, index := cursor.index + 1, column := cursor.column + 1 }

def nextBy (cursor : Cursor) (n : Nat) : Cursor :=
  let passed := (cursor.rest.take n).length
  { cursor with
    rest := cursor.rest.drop n
    index := cursor.index + passed
    column := cursor.column + passed }

/-- Reads a line break; all kinds but two read as a line feed. -/
def lineBreak (cursor : Cursor) : List Char × Cursor :=
  match cursor.rest with
  | '\r' :: '\n' :: rest =>
    (['\n'], { cursor with rest, index := cursor.index + 2, line := cursor.line + 1, column := 0 })
  | c :: rest =>
    if isBreak c then
      let kept := if c.toNat == 0x2028 || c.toNat == 0x2029 then c else '\n'
      ([kept],
        { cursor with rest, index := cursor.index + 1, line := cursor.line + 1, column := 0 })
    else ([], cursor)
  | [] => ([], cursor)

def takeWhile (cursor : Cursor) (condition : Char → Bool) : List Char × Cursor :=
  let taken := cursor.rest.takeWhile condition
  (taken, cursor.nextBy taken.length)

def skipWhile (cursor : Cursor) (condition : Char → Bool) : Cursor :=
  (cursor.takeWhile condition).2

def skipBlanks (cursor : Cursor) : Cursor :=
  cursor.skipWhile isBlank

def skipLineRest (cursor : Cursor) : Cursor :=
  cursor.skipWhile (!isBreak ·)

def atDocumentMark (cursor : Cursor) : Bool :=
  cursor.column == 0 && cursor.endsWord 3 &&
    (['-', '-', '-'].isPrefixOf cursor.rest || ['.', '.', '.'].isPrefixOf cursor.rest)

def finishLine? (cursor : Cursor) : Option Cursor :=
  let cursor := cursor.skipBlanks
  let cursor := if cursor.sees '#' then cursor.skipLineRest else cursor
  if cursor.endsLine then some cursor.lineBreak.2 else none

end Cursor

end SocketDocs.Yaml
