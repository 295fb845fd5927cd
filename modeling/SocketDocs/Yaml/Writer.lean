import SocketDocs.Decimal.Shortest
import SocketDocs.Json.Value
import SocketDocs.Yaml.Style

/-!
# Writing YAML text

Values are written in block layout with an indent of two spaces. A sequence under a key keeps the
indentation of the key; a collection after another mark begins on the line of the mark. Lines have
no greatest length. A key of several lines or more than 128 bytes stands after a question mark.
-/

namespace SocketDocs.Yaml

open Json (Value)

/-! ## Scalars -/

def pad (width : Nat) : List Char :=
  List.replicate width ' '

def indentLines (width : Nat) : Bool → List Char → List Char
  | _, [] => []
  | fresh, c :: rest =>
    if isBreak c then c :: indentLines width true rest
    else (if fresh then pad width else []) ++ c :: indentLines width false rest

/-- The header of a literal block: a digit if the indentation cannot be told from the first line,
and a sign unless the text ends in one line break. -/
def literalHeader (cs : List Char) : List Char :=
  let indentation := if cs.head?.any fun c => c == ' ' || isBreak c then ['2'] else []
  let chomping :=
    match cs.reverse with
    | last :: before =>
      if !isBreak last then ['-'] else if before.head?.all isBreak then ['+'] else []
    | [] => ['-']
  '|' :: indentation ++ chomping ++ ['\n']

def literalText (width : Nat) (cs : List Char) : List Char :=
  literalHeader cs ++ indentLines width true cs

def singleQuotedText (width : Nat) (cs : List Char) : List Char :=
  let doubled := cs.flatMap fun c => if c == '\'' then ['\'', '\''] else [c]
  let ending := if cs.getLast?.any isBreak then pad width else []
  '\'' :: indentLines width false doubled ++ ending ++ ['\'']

def upperHexDigit (n : Nat) : Char :=
  ((Nat.toDigits 16 n).headD '0').toUpper

def upperHex (count n : Nat) : List Char :=
  (List.range count).reverse.map fun place => upperHexDigit (n / Nat.pow 16 place % 16)

def escapeLetter? (c : Char) : Option Char :=
  match c.toNat with
  | 0x00 => some '0'
  | 0x07 => some 'a'
  | 0x08 => some 'b'
  | 0x09 => some 't'
  | 0x0A => some 'n'
  | 0x0B => some 'v'
  | 0x0C => some 'f'
  | 0x0D => some 'r'
  | 0x1B => some 'e'
  | 0x22 => some '"'
  | 0x5C => some '\\'
  | 0x85 => some 'N'
  | 0x2028 => some 'L'
  | 0x2029 => some 'P'
  | _ => none

def escapeChar (c : Char) : List Char :=
  if isPrintable c && !isBreak c && c != '"' && c != '\\' then [c]
  else
    match escapeLetter? c with
    | some letter => ['\\', letter]
    | none =>
      if c.toNat ≤ 0xFF then '\\' :: 'x' :: upperHex 2 c.toNat
      else '\\' :: 'u' :: upperHex 4 c.toNat

def doubleQuotedText (cs : List Char) : List Char :=
  '"' :: cs.flatMap escapeChar ++ ['"']

def scalarText (width : Nat) (text : String) : List Char :=
  let cs := text.toList
  match ScalarStyle.forText text with
  | .literal => literalText width cs
  | .singleQuoted => singleQuotedText width cs
  | .doubleQuoted => doubleQuotedText cs
  | _ => cs

/-- Ends a line, unless a line break has ended it. -/
def endLine (cs : List Char) : List Char :=
  if cs.getLast?.any isBreak then cs else cs ++ ['\n']

def textAfter (indent : Nat) (text : String) : String :=
  String.ofList (endLine (' ' :: scalarText (indent + 2) text))

/-! ## Values -/

def doubleFormat : Double.TextFormat := ⟨false⟩

def numberText : Json.Number → String
  | .int n => toString n
  | .double x => x.text doubleFormat

def spaces (width : Nat) : String :=
  String.ofList (pad width)

def longestSimpleKey : Nat := 128

def isSimpleKey (key : String) : Bool :=
  !key.toList.any isBreak && key.utf8ByteSize ≤ longestSimpleKey

mutual
def valueAfterMark (indent : Nat) : Value → String
  | .null => " null\n"
  | .bool b => if b then " true\n" else " false\n"
  | .number n => " " ++ numberText n ++ "\n"
  | .string text => textAfter indent text
  | .array [] => " []\n"
  | .array (item :: items) =>
    " " ++ (spaces (indent + 2)).intercalate (itemTexts (indent + 2) (item :: items))
  | .object [] => " \x7b\x7d\n"
  | .object (first :: members) =>
    " " ++ (spaces (indent + 2)).intercalate (memberTexts (indent + 2) (first :: members))

def valueAfterKey (indent : Nat) : Value → String
  | .null => " null\n"
  | .bool b => if b then " true\n" else " false\n"
  | .number n => " " ++ numberText n ++ "\n"
  | .string text => textAfter indent text
  | .array [] => " []\n"
  | .array (item :: items) =>
    "\n" ++ spaces indent ++ (spaces indent).intercalate (itemTexts indent (item :: items))
  | .object [] => " \x7b\x7d\n"
  | .object (first :: members) =>
    "\n" ++ spaces (indent + 2) ++
      (spaces (indent + 2)).intercalate (memberTexts (indent + 2) (first :: members))

def itemTexts (indent : Nat) : List Value → List String
  | [] => []
  | item :: rest => ("-" ++ valueAfterMark indent item) :: itemTexts indent rest

def memberTexts (indent : Nat) : List (String × Value) → List String
  | [] => []
  | (key, value) :: rest =>
    let text :=
      if isSimpleKey key then
        String.ofList (scalarText (indent + 2) key) ++ ":" ++ valueAfterKey indent value
      else
        "?" ++ textAfter indent key ++ spaces indent ++ ":" ++ valueAfterMark indent value
    text :: memberTexts indent rest
end

def documentText (members : List (String × Value)) : String :=
  "".intercalate (memberTexts 0 members)

end SocketDocs.Yaml
