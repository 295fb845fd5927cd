import SocketDocs.Decimal.Double

/-!
# Reading numbers from text

Whole texts that spell an integer or a decimal number. The decimal reader takes a sign, digits with
at most one point among or around them, and an exponent; it rounds to the nearest `Double`.
-/

namespace SocketDocs.Decimal

def isDigit (c : Char) : Bool :=
  '0' ≤ c && c ≤ '9'

def digitValue (c : Char) : Nat :=
  c.toNat - '0'.toNat

def natOfDigits (digits : List Char) : Nat :=
  digits.foldl (fun n c => n * 10 + digitValue c) 0

def nat? (cs : List Char) : Option Nat :=
  if !cs.isEmpty && cs.all isDigit then some (natOfDigits cs) else none

def radixDigit? (radix : Nat) (c : Char) : Option Nat :=
  let value? :=
    if isDigit c then some (digitValue c)
    else if 'a' ≤ c && c ≤ 'f' then some (c.toNat - 'a'.toNat + 10)
    else if 'A' ≤ c && c ≤ 'F' then some (c.toNat - 'A'.toNat + 10)
    else none
  value?.filter (· < radix)

def natOfRadixFrom? (radix : Nat) (n : Nat) : List Char → Option Nat
  | [] => some n
  | c :: rest =>
    match radixDigit? radix c with
    | some digit => natOfRadixFrom? radix (n * radix + digit) rest
    | none => none

def natOfRadix? (radix : Nat) (cs : List Char) : Option Nat :=
  if cs.isEmpty then none else natOfRadixFrom? radix 0 cs

/-- Splits off a leading sign; the first part tells whether it was a minus. -/
def splitSign : List Char → Bool × List Char
  | '-' :: rest => (true, rest)
  | '+' :: rest => (false, rest)
  | cs => (false, cs)

def int64Min : Int := -9223372036854775808

def int64Max : Int := 9223372036854775807

def uint64Max : Int := 18446744073709551615

def int64? (cs : List Char) : Option Int :=
  let (negative, digits) := splitSign cs
  match nat? digits with
  | some n =>
    let value : Int := if negative then -(n : Int) else n
    if int64Min ≤ value && value ≤ int64Max then some value else none
  | none => none

/-- An exponent mark with its digits; the empty text is the exponent zero. -/
def exponent? : List Char → Option Int
  | [] => some 0
  | c :: rest =>
    if c == 'e' || c == 'E' then
      let (negative, digits) := splitSign rest
      (nat? digits).map fun n => if negative then -(n : Int) else n
    else none

/-- A decimal number. Words for infinities and NaN, and numbers that round to an infinity, are
refused: they have no finite value. -/
def double? (cs : List Char) : Option Double :=
  let (negative, rest) := splitSign cs
  let whole := rest.takeWhile isDigit
  let rest := rest.dropWhile isDigit
  let (fraction, rest) :=
    match rest with
    | '.' :: tail => (tail.takeWhile isDigit, tail.dropWhile isDigit)
    | _ => ([], rest)
  if whole.isEmpty && fraction.isEmpty then none
  else
    match exponent? rest with
    | some e => Double.ofDecimal negative (natOfDigits (whole ++ fraction)) (e - fraction.length)
    | none => none

end SocketDocs.Decimal
