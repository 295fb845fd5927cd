import SocketDocs.Yaml.Cursor
import SocketDocs.Yaml.Scalar
import SocketDocs.Yaml.Token

/-!
# The style of a written text

A text is written plain where that can only mean the text itself, over several lines as a literal
block where it has line feeds, and in single quotes otherwise. Double quotes are for what the other
styles cannot hold.
-/

namespace SocketDocs.Yaml

def isPrintable (c : Char) : Bool :=
  let n := c.toNat
  n == 0x0A || (0x20 ≤ n && n ≤ 0x7E) ||
    (0xA0 ≤ n && n ≤ 0xFFFD && n != 0xFEFF) || 0x10000 ≤ n

namespace ScalarStyle

def hasPair (first second : Char → Bool) (cs : List Char) : Bool :=
  (cs.zip (cs.drop 1)).any fun (a, b) => first a && second b

def isSpace (c : Char) : Bool :=
  c == ' '

def isGap (c : Char) : Bool :=
  isBlank c || isBreak c

def openingMarks : List Char :=
  "#,[]\x7b\x7d&*!|>'\"%@`".toList

def opensWithMark : List Char → Bool
  | [] => false
  | c :: rest =>
    openingMarks.contains c ||
      ((c == '?' || c == ':' || c == '-') && rest.head?.all isGap) ||
      ['-', '-', '-'].isPrefixOf (c :: rest) || ['.', '.', '.'].isPrefixOf (c :: rest)

/-- A colon before a gap or the end, or a comment sign after a gap. -/
def containsMark (cs : List Char) : Bool :=
  hasPair (· == ':') isGap cs || cs.getLast? == some ':' || hasPair isGap (· == '#') cs

def allowsPlain (cs : List Char) : Bool :=
  !cs.isEmpty && cs.all isPrintable && !cs.any isBreak &&
    !(cs.head?.any isSpace || cs.getLast?.any isSpace) && !(opensWithMark cs || containsMark cs)

def allowsSingleQuoted (cs : List Char) : Bool :=
  cs.all isPrintable && !hasPair isBreak isSpace cs && !hasPair isSpace isBreak cs

def allowsLiteral (cs : List Char) : Bool :=
  !cs.isEmpty && cs.all isPrintable && !cs.getLast?.any isSpace && !hasPair isSpace isBreak cs

def isAmbiguous (text : String) : Bool :=
  Meaning.ofText text != .text || Meaning.isPadded text.toList

def forText (text : String) : ScalarStyle :=
  let cs := text.toList
  if cs.contains '\n' then (if allowsLiteral cs then .literal else .doubleQuoted)
  else if allowsPlain cs && !isAmbiguous text then .plain
  else if allowsSingleQuoted cs then .singleQuoted
  else .doubleQuoted

end ScalarStyle

end SocketDocs.Yaml
