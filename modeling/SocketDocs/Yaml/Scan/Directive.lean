import SocketDocs.Yaml.Scan.Scalar
import SocketDocs.Yaml.Token

/-!
# Directives, anchors and tags in YAML text
-/

namespace SocketDocs.Yaml.Scan

def versionNumber? (cursor : Cursor) : Option (Nat × Cursor) :=
  let (digits, after) := cursor.takeWhile Decimal.isDigit
  if digits.isEmpty || 9 < digits.length then none
  else some (Decimal.natOfDigits digits, after)

def version? (cursor : Cursor) : Option (Token × Cursor) := do
  let (major, cursor) ← versionNumber? cursor.skipBlanks
  if cursor.sees '.' then
    let (minor, cursor) ← versionNumber? cursor.next
    pure (.version major minor, cursor)
  else none

/-- The handle of a tag: a mark, a word, and perhaps a second mark, which a directive demands unless
the handle is one mark alone. -/
def tagHandle? (inDirective : Bool) (cursor : Cursor) : Option (List Char × Cursor) :=
  if cursor.sees '!' then
    let (word, after) := cursor.next.takeWhile isWordChar
    if after.sees '!' then some ('!' :: word ++ ['!'], after.next)
    else if inDirective && !word.isEmpty then none
    else some ('!' :: word, after)
  else none

/-- Characters of the address in a tag. Between angle brackets and in directives flow indicators
are among them. -/
def isUriChar (wide : Bool) (c : Char) : Bool :=
  isWordChar c || ";/?:@&=+$.!~*'()%".toList.contains c ||
    (wide && (c == ',' || c == '[' || c == ']'))

def sequenceLength? (byte : Nat) : Option Nat :=
  if byte < 0x80 then some 1
  else if 0xC0 ≤ byte && byte < 0xE0 then some 2
  else if 0xE0 ≤ byte && byte < 0xF0 then some 3
  else if 0xF0 ≤ byte && byte < 0xF8 then some 4
  else none

def escapedBytes? : Nat → List Char → Option (List Nat × List Char)
  | 0, cs => some ([], cs)
  | count + 1, '%' :: a :: b :: rest =>
    match Decimal.natOfRadix? 16 [a, b], escapedBytes? count rest with
    | some byte, some (bytes, rest) => some (byte :: bytes, rest)
    | _, _ => none
  | _ + 1, _ => none

def escapedSequence? (cs : List Char) : Option (Char × List Char) := do
  let (first, _) ← escapedBytes? 1 cs
  let length ← sequenceLength? (first.headD 0)
  let (bytes, rest) ← escapedBytes? length cs
  match String.fromUTF8? (ByteArray.mk (bytes.map Nat.toUInt8).toArray) with
  | some text =>
    match text.toList with
    | [c] => some (c, rest)
    | _ => none
  | none => none

def uriChars? (wide : Bool) : Nat → List Char → List Char → Option (List Char × List Char)
  | 0, done, rest => some (done.reverse, rest)
  | _ + 1, done, [] => some (done.reverse, [])
  | fuel + 1, done, c :: rest =>
    if isUriChar wide c then
      if c == '%' then
        match escapedSequence? (c :: rest) with
        | some (plain, rest) => uriChars? wide fuel (plain :: done) rest
        | none => none
      else uriChars? wide fuel (c :: done) rest
    else some (done.reverse, c :: rest)

def uri? (wide : Bool) (cursor : Cursor) : Option (List Char × Cursor) :=
  match uriChars? wide cursor.rest.length [] cursor.rest with
  | some (text, rest) => some (text, cursor.nextBy (cursor.rest.length - rest.length))
  | none => none

def tagDirective? (cursor : Cursor) : Option (Token × Cursor) := do
  let (handle, cursor) ← tagHandle? true cursor.skipBlanks
  if !cursor.seesBlank then none
  else
    let (start, cursor) ← uri? true cursor.skipBlanks
    if start.isEmpty || !cursor.endsWord 0 then none
    else some (.tagDirective (String.ofList handle) (String.ofList start), cursor)

def directive? (cursor : Cursor) : Option (Token × Cursor) := do
  let (name, cursor) := cursor.next.takeWhile isWordChar
  if name.isEmpty || !cursor.endsWord 0 then none
  else
    let (token, cursor) ←
      if name == "YAML".toList then version? cursor
      else if name == "TAG".toList then tagDirective? cursor
      else none
    let cursor ← cursor.finishLine?
    pure (token, cursor)

def anchorName? (cursor : Cursor) : Option (String × Cursor) :=
  let (name, after) := cursor.next.takeWhile isWordChar
  let ends := after.endsWord 0 || after.char?.any ("?:,]\x7d%@`".toList.contains ·)
  if name.isEmpty || !ends then none else some (String.ofList name, after)

def verbatimTag? (cursor : Cursor) : Option (Token × Cursor) := do
  let (address, cursor) ← uri? true (cursor.nextBy 2)
  if address.isEmpty || !cursor.sees '>' then none
  else some (.tag "" (String.ofList address), cursor.next)

/-- A tag with a handle, or a local one; a single mark is a tag of its own. -/
def shorthandTag? (cursor : Cursor) : Option (Token × Cursor) := do
  let (handle, cursor) ← tagHandle? false cursor
  let (suffix, cursor) ← uri? false cursor
  if 1 < handle.length && handle.getLast? == some '!' then
    if suffix.isEmpty then none
    else some (.tag (String.ofList handle) (String.ofList suffix), cursor)
  else
    let whole := handle.drop 1 ++ suffix
    if whole.isEmpty then some (.tag "" "!", cursor)
    else some (.tag "!" (String.ofList whole), cursor)

def tag? (flow : Bool) (cursor : Cursor) : Option (Token × Cursor) := do
  let (token, cursor) ←
    if cursor.seesAt 1 '<' then verbatimTag? cursor else shorthandTag? cursor
  if (flow && cursor.sees ',') || cursor.endsWord 0 then pure (token, cursor) else none

end SocketDocs.Yaml.Scan
