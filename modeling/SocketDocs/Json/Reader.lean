import SocketDocs.Decimal.Reader
import SocketDocs.Json.Value

/-!
# Reading JSON text

`Json.parse?` reads one value that fills the text. Arrays and objects nest at most 127 deep. Of
members with one key the last holds.

A number without point and exponent that fits 64 bits is an integer. Any other number is a double,
found from its leading digits: as many as fit an unsigned 64-bit integer are taken, that integer is
rounded, and the result is multiplied or divided by a rounded power of ten. The last binary place
may therefore differ from the nearest double.
-/

namespace SocketDocs.Json

open SocketDocs.Decimal

def isSpace (c : Char) : Bool :=
  c == ' ' || c == '\t' || c == '\n' || c == '\r'

def skipSpace (cs : List Char) : List Char :=
  cs.dropWhile isSpace

/-! ## Strings -/

def hexUnit? (a b c d : Char) : Option Nat :=
  natOfRadix? 16 [a, b, c, d]

def escaped? : Char → Option Char
  | '"' => some '"'
  | '\\' => some '\\'
  | '/' => some '/'
  | 'b' => some '\x08'
  | 'f' => some '\x0c'
  | 'n' => some '\n'
  | 'r' => some '\r'
  | 't' => some '\t'
  | _ => none

def isHighUnit (unit : Nat) : Bool := 0xD800 ≤ unit && unit ≤ 0xDBFF

def isLowUnit (unit : Nat) : Bool := 0xDC00 ≤ unit && unit ≤ 0xDFFF

def joinUnits (high low : Nat) : Char :=
  Char.ofNat (0x10000 + (high - 0xD800) * 0x400 + (low - 0xDC00))

/-- The rest of a string after its opening quote. `done` holds the characters read, in reverse. -/
def readString (done : List Char) : List Char → Option (String × List Char)
  | [] => none
  | '"' :: rest => some (String.ofList done.reverse, rest)
  | '\\' :: 'u' :: a :: b :: c :: d :: '\\' :: 'u' :: e :: f :: g :: h :: rest =>
    match hexUnit? a b c d with
    | none => none
    | some unit =>
      if isLowUnit unit then none
      else if isHighUnit unit then
        match hexUnit? e f g h with
        | some low => if isLowUnit low then readString (joinUnits unit low :: done) rest else none
        | none => none
      else readString (Char.ofNat unit :: done) ('\\' :: 'u' :: e :: f :: g :: h :: rest)
  | '\\' :: 'u' :: a :: b :: c :: d :: rest =>
    match hexUnit? a b c d with
    | none => none
    | some unit =>
      if isLowUnit unit || isHighUnit unit then none
      else readString (Char.ofNat unit :: done) rest
  | '\\' :: c :: rest =>
    match escaped? c with
    | some plain => readString (plain :: done) rest
    | none => none
  | c :: rest => if c.toNat < 0x20 || c == '\\' then none else readString (c :: done) rest

/-! ## Numbers -/

def fitsUnsigned (n : Nat) : Bool := (n : Int) ≤ uint64Max

def takeDigits (n : Nat) : List Char → Nat × List Char
  | [] => (n, [])
  | c :: rest =>
    let next := n * 10 + digitValue c
    if fitsUnsigned next then takeDigits next rest else (n, c :: rest)

def powerOfTen (n : Nat) : Option Double :=
  Double.ofDecimal false 1 n

/-- Divides by powers of ten, at most the 308th at a time. Three such divisions leave zero of any
number that a text can start from. -/
def scaleDown : Nat → Double → Nat → Option Double
  | 0, x, _ => some x
  | rounds + 1, x, power =>
    if x.isZero then some x
    else if power ≤ 308 then (powerOfTen power).bind x.div
    else ((powerOfTen 308).bind x.div).bind fun smaller => scaleDown rounds smaller (power - 308)

def scaled (negative : Bool) (significand : Nat) (exponent : Int) : Option Double := do
  let x ← Double.ofNat significand
  let magnitude ←
    if x.isZero then some x
    else if 308 < exponent then none
    else if 0 ≤ exponent then (powerOfTen exponent.toNat).bind x.mul
    else scaleDown 4 x (-exponent).toNat
  pure { magnitude with negative := negative }

def int32Max : Int := 2147483647

def int32Min : Int := -2147483648

def clampInt32 (n : Int) : Int :=
  max int32Min (min int32Max n)

def readExponent (negative : Bool) (significand : Nat) (exponent : Int) (cs : List Char) :
    Option (Number × List Char) :=
  match cs with
  | mark :: rest =>
    if mark == 'e' || mark == 'E' then
      let (down, rest) := splitSign rest
      let digits := rest.takeWhile isDigit
      let rest := rest.dropWhile isDigit
      if digits.isEmpty then none
      else
        let power : Int := natOfDigits digits
        if int32Max < power then
          if significand != 0 && !down then none
          else some (.double (Double.zero negative), rest)
        else
          let total := clampInt32 (if down then exponent - power else exponent + power)
          (scaled negative significand total).map fun x => (.double x, rest)
    else (scaled negative significand exponent).map fun x => (.double x, cs)
  | [] => (scaled negative significand exponent).map fun x => (.double x, cs)

def integer (negative : Bool) (n : Nat) : Number :=
  if negative then
    let value : Int := -(n : Int)
    if n == 0 || value < int64Min then
      .double ((Double.round true n 1).getD (Double.zero true))
    else .int value
  else .int n

def isExponentMark : List Char → Bool
  | c :: _ => c == 'e' || c == 'E'
  | [] => false

def readUnsigned (negative : Bool) (cs : List Char) : Option (Number × List Char) :=
  let digits := cs.takeWhile isDigit
  let rest := cs.dropWhile isDigit
  if digits.isEmpty || (digits.head? == some '0' && digits.length != 1) then none
  else
    let (significand, dropped) := takeDigits 0 digits
    match rest with
    | '.' :: tail =>
      let places := tail.takeWhile isDigit
      if places.isEmpty then none
      else
        let (full, unused) := takeDigits significand places
        let taken : Int := (places.length : Int) - unused.length
        readExponent negative full ((dropped.length : Int) - taken) (tail.dropWhile isDigit)
    | _ =>
      if dropped.isEmpty && !isExponentMark rest then some (integer negative significand, rest)
      else readExponent negative significand dropped.length rest

def readNumber : List Char → Option (Number × List Char)
  | '-' :: rest => readUnsigned true rest
  | cs => readUnsigned false cs

/-! ## Values -/

mutual
/-- One value at the head of the text. `depth` collections may still open around it; `fuel` bounds
the calls and is never short, since each call or the one it makes consumes a character. -/
def readValue : Nat → Nat → List Char → Option (Value × List Char)
  | 0, _, _ => none
  | fuel + 1, depth, cs =>
    match skipSpace cs with
    | 'n' :: 'u' :: 'l' :: 'l' :: rest => some (.null, rest)
    | 't' :: 'r' :: 'u' :: 'e' :: rest => some (.bool true, rest)
    | 'f' :: 'a' :: 'l' :: 's' :: 'e' :: rest => some (.bool false, rest)
    | '"' :: rest => (readString [] rest).map fun (s, rest) => (.string s, rest)
    | '[' :: rest =>
      if depth == 0 then none
      else
        match skipSpace rest with
        | ']' :: rest => some (.array [], rest)
        | rest => (readItems fuel (depth - 1) rest).map fun (items, rest) => (.array items, rest)
    | '\x7b' :: rest =>
      if depth == 0 then none
      else
        match skipSpace rest with
        | '\x7d' :: rest => some (.object [], rest)
        | rest =>
          (readMembers fuel (depth - 1) rest).map fun (members, rest) =>
            (.object (Keyed.ofList members), rest)
    | cs => (readNumber cs).map fun (n, rest) => (.number n, rest)

def readItems : Nat → Nat → List Char → Option (List Value × List Char)
  | 0, _, _ => none
  | fuel + 1, depth, cs =>
    match readValue fuel depth cs with
    | none => none
    | some (item, rest) =>
      match skipSpace rest with
      | ',' :: rest => (readItems fuel depth rest).map fun (items, rest) => (item :: items, rest)
      | ']' :: rest => some ([item], rest)
      | _ => none

def readMembers : Nat → Nat → List Char → Option (List (String × Value) × List Char)
  | 0, _, _ => none
  | fuel + 1, depth, cs =>
    match skipSpace cs with
    | '"' :: rest =>
      match readString [] rest with
      | none => none
      | some (key, rest) =>
        match skipSpace rest with
        | ':' :: rest =>
          match readValue fuel depth rest with
          | none => none
          | some (value, rest) =>
            match skipSpace rest with
            | ',' :: rest =>
              (readMembers fuel depth rest).map fun (members, rest) =>
                ((key, value) :: members, rest)
            | '\x7d' :: rest => some ([(key, value)], rest)
            | _ => none
        | _ => none
    | _ => none
end

def depthLimit : Nat := 127

def parseChars? (cs : List Char) : Option Value :=
  match readValue (2 * cs.length + 2) depthLimit cs with
  | some (value, rest) => if (skipSpace rest).isEmpty then some value else none
  | none => none

def parse? (text : String) : Option Value :=
  parseChars? text.toList

end SocketDocs.Json
