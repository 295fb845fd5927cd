import SocketDocs.Decimal.Reader

/-!
# What plain scalars mean

A plain scalar without a tag may spell null, a truth value or a number; any other text means itself.
-/

namespace SocketDocs.Yaml

inductive Meaning where
  | null
  | bool (value : Bool)
  /-- An integer of at most 128 bits. -/
  | int (value : Int)
  | double (value : Double)
  /-- An infinity, or what is not a number. -/
  | nonFinite
  | text
  deriving DecidableEq, Repr

namespace Meaning

def isNull (text : String) : Bool :=
  text == "null" || text == "Null" || text == "NULL" || text == "~"

def bool? : String → Option Bool
  | "true" => some true
  | "True" => some true
  | "TRUE" => some true
  | "false" => some false
  | "False" => some false
  | "FALSE" => some false
  | _ => none

/-- Digits after a needless zero are no number. -/
def isPadded (cs : List Char) : Bool :=
  match (Decimal.splitSign cs).2 with
  | '0' :: c :: rest => (c :: rest).all Decimal.isDigit
  | _ => false

def marked? : List Char → Option Nat
  | '0' :: 'x' :: digits => Decimal.natOfRadix? 16 digits
  | '0' :: 'o' :: digits => Decimal.natOfRadix? 8 digits
  | '0' :: 'b' :: digits => Decimal.natOfRadix? 2 digits
  | _ => none

def anyInt? (cs : List Char) : Option Int :=
  if isPadded cs then none
  else
    let (negative, digits) := Decimal.splitSign cs
    match marked? digits <|> Decimal.nat? digits with
    | some n => some (if negative then -(n : Int) else n)
    | none => none

/-- Whether an integer has at most 128 bits, with a sign if it is negative. -/
def fits (n : Int) : Bool :=
  -(Nat.pow 2 127 : Nat) ≤ n && n < (Nat.pow 2 128 : Nat)

def int? (cs : List Char) : Option Int :=
  (anyInt? cs).filter fits

def spellsNonFinite (text : String) : Bool :=
  [".inf", ".Inf", ".INF", "+.inf", "+.Inf", "+.INF", "-.inf", "-.Inf", "-.INF",
    ".nan", ".NaN", ".NAN"].contains text

def float? (text : String) : Option Meaning :=
  if spellsNonFinite text then some .nonFinite
  else (Decimal.double? text.toList).map .double

def ofText (text : String) : Meaning :=
  if text.isEmpty || isNull text then .null
  else
    match bool? text, int? text.toList with
    | some b, _ => .bool b
    | none, some n => .int n
    | none, none =>
      if isPadded text.toList then .text else (float? text).getD .text

end Meaning

end SocketDocs.Yaml
