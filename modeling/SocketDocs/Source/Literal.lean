import SocketDocs.Source.Parser

/-!
# Values of literals

Which numbers can index a tuple, and what text a string literal stands for.
-/

namespace SocketDocs.Source.Literal

open SocketDocs.Decimal (isDigit radixDigit?)

def radix : List Char → Nat × List Char
  | '0' :: 'x' :: rest => (16, rest)
  | '0' :: 'o' :: rest => (8, rest)
  | '0' :: 'b' :: rest => (2, rest)
  | cs => (10, cs)

def isDigitOrSeparator (c : Char) : Bool :=
  isDigit c || c == '_'

def isExponent (cs : List Char) : Bool :=
  match cs.dropWhile isDigitOrSeparator with
  | '+' :: _ => true
  | '-' :: _ => true
  | _ => (cs.takeWhile isDigitOrSeparator).any isDigit

def isFloat (text : List Char) : Bool :=
  text.head?.any isDigit && (radix text).1 == 10 &&
    match text.dropWhile isDigitOrSeparator with
    | '.' :: _ => true
    | 'e' :: rest => isExponent rest
    | 'E' :: rest => isExponent rest
    | _ => false

/-- The number of a tuple index: an integer without suffix below `2 ^ 32`. -/
def index? (text : List Char) : Option Nat :=
  if text.head?.any isDigit then
    let (base, digits) := radix text
    match Decimal.natOfRadix? base (digits.filter (· != '_')) with
    | some n => if n < 4294967296 then some n else none
    | none => none
  else none

def splitPoints (part : List Char) : List Char → List (List Char)
  | [] => [part.reverse]
  | c :: rest => if c == '.' then part.reverse :: splitPoints [] rest else splitPoints (c :: part) rest

/-! ## Strings -/

def skipContinuation (cs : List Char) : List Char :=
  cs.dropWhile fun c => c == ' ' || c == '\t' || c == '\n' || c == '\r'

def unicodeEscape (value : Nat) : List Char → Nat × List Char
  | [] => (value, [])
  | c :: rest =>
    if c == '\x7d' then (value, rest)
    else
      match radixDigit? 16 c with
      | some digit => unicodeEscape (value * 16 + digit) rest
      | none => unicodeEscape value rest

/-- The characters of a string after its opening quote. The string is known to be well formed, and
`fuel` to be its length or more. -/
def cookedValue : Nat → List Char → List Char
  | 0, _ => []
  | fuel + 1, cs =>
    match cs with
    | [] => []
    | '"' :: _ => []
    | '\\' :: 'x' :: a :: b :: rest =>
      Char.ofNat ((Decimal.natOfRadix? 16 [a, b]).getD 0) :: cookedValue fuel rest
    | '\\' :: 'u' :: '\x7b' :: rest =>
      let (value, rest) := unicodeEscape 0 rest
      Char.ofNat value :: cookedValue fuel rest
    | '\\' :: '\n' :: rest => cookedValue fuel (skipContinuation rest)
    | '\\' :: '\r' :: rest => cookedValue fuel (skipContinuation rest)
    | '\\' :: 'n' :: rest => '\n' :: cookedValue fuel rest
    | '\\' :: 'r' :: rest => '\r' :: cookedValue fuel rest
    | '\\' :: 't' :: rest => '\t' :: cookedValue fuel rest
    | '\\' :: '0' :: rest => Char.ofNat 0 :: cookedValue fuel rest
    | '\\' :: c :: rest => c :: cookedValue fuel rest
    | '\r' :: '\n' :: rest => '\n' :: cookedValue fuel rest
    | c :: rest => c :: cookedValue fuel rest

def joinLineEnds : List Char → List Char
  | [] => []
  | '\r' :: '\n' :: rest => '\n' :: joinLineEnds rest
  | c :: rest => c :: joinLineEnds rest

def rawValue (cs : List Char) : List Char :=
  let marks := (cs.takeWhile (· == '#')).length
  let body := cs.drop (marks + 1)
  let quoteEnd := (body.reverse.dropWhile (· != '"')).drop 1
  joinLineEnds quoteEnd.reverse

def string? (text : String) : Option String :=
  match text.toList with
  | '"' :: rest => some (String.ofList (cookedValue rest.length rest))
  | 'r' :: rest => some (String.ofList (rawValue rest))
  | _ => none

end SocketDocs.Source.Literal
