import SocketDocs.Decimal.Reader
import SocketDocs.Text.Blank
import SocketDocs.Text.Identifier

/-!
# Lengths of Rust lexemes

Each function here looks at the head of a text and tells how many characters the lexeme of one
class takes there, or that none of that class begins there. Nothing is consumed: a caller cuts the
text at the length it gets.
-/

namespace SocketDocs.Source.Lexeme

open SocketDocs.Decimal (isDigit radixDigit?)
open SocketDocs.Text (isBlank isIdentifierPart isIdentifierStart)

def startsWith (head cs : List Char) : Bool :=
  head.isPrefixOf cs

/-! ## Blanks and comments -/

def isSpace (c : Char) : Bool :=
  isBlank c || c.toNat == 0x200E || c.toNat == 0x200F

def lineLength (cs : List Char) : Nat :=
  (cs.takeWhile (· != '\n')).length

/-- A block comment, from inside `depth` of them; `n` characters were passed before. -/
def blockLengthFrom (depth n : Nat) : List Char → Option Nat
  | '/' :: '*' :: rest => blockLengthFrom (depth + 1) (n + 2) rest
  | '*' :: '/' :: rest => if depth ≤ 1 then some (n + 2) else blockLengthFrom (depth - 1) (n + 2) rest
  | _ :: rest => blockLengthFrom depth (n + 1) rest
  | [] => none

def blockCommentLength? : List Char → Option Nat
  | '/' :: '*' :: rest => blockLengthFrom 1 2 rest
  | _ => none

/-! ## Identifiers -/

def plainIdentifierLength? : List Char → Option Nat
  | c :: rest =>
    if isIdentifierStart c then some (1 + (rest.takeWhile isIdentifierPart).length) else none
  | [] => none

def neverRaw : List (List Char) :=
  ["_", "super", "self", "Self", "crate"].map String.toList

def identifierLength? : List Char → Option Nat
  | 'r' :: '#' :: rest =>
    match plainIdentifierLength? rest with
    | some n => if neverRaw.contains (rest.take n) then none else some (n + 2)
    | none => none
  | cs => plainIdentifierLength? cs

/-- Beginnings that announce a string or byte literal and are no identifier. -/
def literalOpenings : List (List Char) :=
  ["r\"", "r#\"", "r##", "b\"", "b'", "br\"", "br#", "c\"", "cr\"", "cr#"].map String.toList

def suffixLength (cs : List Char) : Nat :=
  (plainIdentifierLength? cs).getD 0

/-! ## Strings -/

inductive Flavor where
  | text
  | bytes
  | cString
  deriving DecidableEq, Repr

inductive CookedState where
  | plain
  | afterReturn
  | backslash
  | hexHigh
  | hexLow (high : Nat)
  | unicodeOpen
  | unicode (value count : Nat)
  /-- After a backslash at the end of a line: blanks are passed over. -/
  | continued
  | continuedReturn
  deriving DecidableEq, Repr

inductive CookedStep where
  | next (state : CookedState)
  | close
  | reject
  deriving DecidableEq, Repr

def isUnicodeScalar (n : Nat) : Bool :=
  n < 0xD800 || (0xE000 ≤ n && n ≤ 0x10FFFF)

def Flavor.admits (flavor : Flavor) (c : Char) : Bool :=
  match flavor with
  | .text => true
  | .bytes => c.toNat < 0x80
  | .cString => c.toNat != 0

def plainStep (flavor : Flavor) (c : Char) : CookedStep :=
  if c == '"' then .close
  else if c == '\r' then .next .afterReturn
  else if c == '\\' then .next .backslash
  else if flavor.admits c then .next .plain
  else .reject

def backslashStep (flavor : Flavor) (c : Char) : CookedStep :=
  if c == 'x' then .next .hexHigh
  else if c == 'n' || c == 'r' || c == 't' || c == '\\' || c == '\'' || c == '"' then .next .plain
  else if c == '0' then (if flavor = .cString then .reject else .next .plain)
  else if c == 'u' then (if flavor = .bytes then .reject else .next .unicodeOpen)
  else if c == '\n' then .next .continued
  else if c == '\r' then .next .continuedReturn
  else .reject

def unicodeStep (flavor : Flavor) (value count : Nat) (c : Char) : CookedStep :=
  match radixDigit? 16 c with
  | some digit => if count == 6 then .reject else .next (.unicode (value * 16 + digit) (count + 1))
  | none =>
    if count == 0 then .reject
    else if c == '_' then .next (.unicode value count)
    else if c == '\x7d' then
      if isUnicodeScalar value && !(flavor = .cString && value == 0) then .next .plain else .reject
    else .reject

def cookedStep (flavor : Flavor) (state : CookedState) (c : Char) : CookedStep :=
  match state with
  | .plain => plainStep flavor c
  | .afterReturn => if c == '\n' then .next .plain else .reject
  | .backslash => backslashStep flavor c
  | .hexHigh =>
    match radixDigit? (if flavor = .text then 8 else 16) c with
    | some digit => .next (.hexLow digit)
    | none => .reject
  | .hexLow high =>
    match radixDigit? 16 c with
    | some digit =>
      if flavor = .cString && high == 0 && digit == 0 then .reject else .next .plain
    | none => .reject
  | .unicodeOpen => if c == '\x7b' then .next (.unicode 0 0) else .reject
  | .unicode value count => unicodeStep flavor value count c
  | .continued =>
    if c == ' ' || c == '\t' || c == '\n' then .next .continued
    else if c == '\r' then .next .continuedReturn
    else plainStep flavor c
  | .continuedReturn => if c == '\n' then .next .continued else .reject

def cookedLengthFrom (flavor : Flavor) (state : CookedState) (n : Nat) : List Char → Option Nat
  | [] => none
  | c :: rest =>
    match cookedStep flavor state c with
    | .next state => cookedLengthFrom flavor state (n + 1) rest
    | .close => some (n + 1 + suffixLength rest)
    | .reject => none

inductive RawState where
  | body
  | afterReturn
  /-- After a quote and so many marks. -/
  | quote (marks : Nat)
  deriving DecidableEq, Repr

def rawBodyStep (flavor : Flavor) (c : Char) : Option RawState :=
  if c == '"' then some (.quote 0)
  else if c == '\r' then some .afterReturn
  else if flavor.admits c then some .body
  else none

def rawLengthFrom (flavor : Flavor) (marks : Nat) (state : RawState) (n : Nat) :
    List Char → Option Nat
  | [] => if state = .quote marks then some n else none
  | c :: rest =>
    if state = .quote marks then some (n + suffixLength (c :: rest))
    else
      let next :=
        match state with
        | .body => rawBodyStep flavor c
        | .afterReturn => if c == '\n' then some .body else none
        | .quote seen => if c == '#' then some (.quote (seen + 1)) else rawBodyStep flavor c
      match next with
      | some state => rawLengthFrom flavor marks state (n + 1) rest
      | none => none

def rawLength? (flavor : Flavor) (n : Nat) (cs : List Char) : Option Nat :=
  let marks := (cs.takeWhile (· == '#')).length
  match cs.drop marks with
  | '"' :: rest => if marks ≤ 255 then rawLengthFrom flavor marks .body (n + marks + 1) rest else none
  | _ => none

def stringLength? : List Char → Option Nat
  | '"' :: rest => cookedLengthFrom .text .plain 1 rest
  | 'r' :: rest => rawLength? .text 1 rest
  | 'b' :: '"' :: rest => cookedLengthFrom .bytes .plain 2 rest
  | 'b' :: 'r' :: rest => rawLength? .bytes 2 rest
  | 'c' :: '"' :: rest => cookedLengthFrom .cString .plain 2 rest
  | 'c' :: 'r' :: rest => rawLength? .cString 2 rest
  | _ => none

/-! ## Characters -/

def unicodeEscapeLength (value count n : Nat) : List Char → Option Nat
  | [] => none
  | c :: rest =>
    match unicodeStep .text value count c with
    | .next (.unicode value count) => unicodeEscapeLength value count (n + 1) rest
    | .next _ => some (n + 1)
    | _ => none

def isSimpleEscape (c : Char) : Bool :=
  c == 'n' || c == 'r' || c == 't' || c == '\\' || c == '0' || c == '\'' || c == '"'

def charContentLength? : List Char → Option Nat
  | '\\' :: 'x' :: a :: b :: _ =>
    if (radixDigit? 8 a).isSome && (radixDigit? 16 b).isSome then some 4 else none
  | '\\' :: 'u' :: '\x7b' :: rest => unicodeEscapeLength 0 0 3 rest
  | '\\' :: c :: _ => if isSimpleEscape c then some 2 else none
  | '\\' :: [] => none
  | _ :: _ => some 1
  | [] => none

def byteContentLength? : List Char → Option Nat
  | '\\' :: 'x' :: a :: b :: _ =>
    if (radixDigit? 16 a).isSome && (radixDigit? 16 b).isSome then some 4 else none
  | '\\' :: c :: _ => if isSimpleEscape c then some 2 else none
  | '\\' :: [] => none
  | c :: _ => if c.toNat < 0x80 then some 1 else none
  | [] => none

def quotedLength? (opening : Nat) (content : Option Nat) (rest : List Char) : Option Nat :=
  match content with
  | some n =>
    match rest.drop n with
    | '\'' :: after => some (opening + n + 1 + suffixLength after)
    | _ => none
  | none => none

def charLength? : List Char → Option Nat
  | 'b' :: '\'' :: rest => quotedLength? 2 (byteContentLength? rest) rest
  | '\'' :: rest => quotedLength? 1 (charContentLength? rest) rest
  | _ => none

/-! ## Numbers -/

structure Mantissa where
  length : Nat
  hasPoint : Bool
  hasExponent : Bool
  rest : List Char

/-- Digits, separators and at most one point, up to and with an exponent mark. A point before a
second point or an identifier is no part of a number, and then there is no decimal here. -/
def mantissa? (n : Nat) (hasPoint : Bool) : List Char → Option Mantissa
  | [] => some ⟨n, hasPoint, false, []⟩
  | c :: rest =>
    if isDigit c || c == '_' then mantissa? (n + 1) hasPoint rest
    else if c == '.' then
      if hasPoint then some ⟨n, hasPoint, false, c :: rest⟩
      else if rest.head?.any (fun d => d == '.' || isIdentifierStart d) then none
      else mantissa? (n + 1) true rest
    else if c == 'e' || c == 'E' then some ⟨n + 1, hasPoint, true, rest⟩
    else some ⟨n, hasPoint, false, c :: rest⟩

/-- An exponent. Where it has no digits the number ends at `before`, if it may end there. -/
def exponentLength? (before : Option Nat) (n : Nat) (hasSign hasDigit : Bool) :
    List Char → Option Nat
  | [] => if hasDigit then some n else before
  | c :: rest =>
    if (c == '+' || c == '-') && !hasDigit then
      if hasSign then before else exponentLength? before (n + 1) true false rest
    else if isDigit c then exponentLength? before (n + 1) hasSign true rest
    else if c == '_' then exponentLength? before (n + 1) hasSign hasDigit rest
    else if hasDigit then some n
    else before

def decimalDigitsLength? (cs : List Char) : Option Nat :=
  match cs with
  | c :: rest =>
    if isDigit c then
      match mantissa? 1 false rest with
      | some m =>
        if m.hasExponent then
          exponentLength? (if m.hasPoint then some (m.length - 1) else none) m.length false false
            m.rest
        else if m.hasPoint then some m.length
        else none
      | none => none
    else none
  | [] => none

/-- Digits of an integer in base `radix`, after `n` characters. A decimal digit that is too large
for the base spoils the integer; a letter that is too large ends it. -/
def integerDigits? (radix : Nat) (n : Nat) (empty : Bool) : List Char → Option Nat
  | [] => if empty then none else some n
  | c :: rest =>
    if isDigit c then
      if (radixDigit? radix c).isSome then integerDigits? radix (n + 1) false rest else none
    else if c == '_' then
      if empty && radix == 10 then none else integerDigits? radix (n + 1) empty rest
    else if (radixDigit? radix c).isSome then integerDigits? radix (n + 1) false rest
    else if empty then none
    else some n

def integerDigitsLength? : List Char → Option Nat
  | '0' :: 'x' :: rest => integerDigits? 16 2 true rest
  | '0' :: 'o' :: rest => integerDigits? 8 2 true rest
  | '0' :: 'b' :: rest => integerDigits? 2 2 true rest
  | cs => integerDigits? 10 0 true cs

def withSuffix (cs : List Char) (digits : Option Nat) : Option Nat :=
  match digits with
  | some n =>
    let total := n + suffixLength (cs.drop n)
    if (cs.drop total).head?.any isIdentifierPart then none else some total
  | none => none

def numberLength? (cs : List Char) : Option Nat :=
  (withSuffix cs (decimalDigitsLength? cs)).or (withSuffix cs (integerDigitsLength? cs))

def literalLength? (cs : List Char) : Option Nat :=
  ((stringLength? cs).or (charLength? cs)).or (numberLength? cs)

/-! ## Punctuation -/

def punctuation : List Char :=
  "~!@#$%^&*-=+|;:,<.>/?".toList

/-- Whether a punctuation character stands here: a slash that opens a comment is none, and a quote
counts as one only in front of another mark. -/
def isPunctuation : List Char → Bool
  | '/' :: '/' :: _ => false
  | '/' :: '*' :: _ => false
  | c :: _ => punctuation.contains c
  | [] => false

def precedesPunctuation (cs : List Char) : Bool :=
  isPunctuation cs || cs.head? == some '\''

/-- A lifetime: a quote and an identifier that no second quote closes. -/
def lifetimeLength? : List Char → Option Nat
  | '\'' :: rest =>
    match identifierLength? rest with
    | some n =>
      match rest.drop n with
      | '\'' :: _ => none
      | '#' :: _ => if startsWith ['r', '#'] rest then some (n + 1) else none
      | _ => some (n + 1)
    | none => none
  | _ => none

end SocketDocs.Source.Lexeme
