import SocketDocs.Decimal.Double

/-!
# Shortest decimal text

The decimal with the fewest digits that rounds back to a number, and of those the nearest. Each
grid of one, two, … seventeen digits is tried in turn in exact integer arithmetic: if some point of
a grid rounds back to the number, one of the number's two neighbours on that grid does.
-/

namespace SocketDocs.Double

structure Decimal where
  digits : Nat
  exponent : Int
  deriving DecidableEq, Repr

/-- The reals that round to a number, in quarters of its last binary place: from `low` to `high`
around `4 * mantissa`, with the ends when `closed`. -/
structure Interval where
  low : Nat
  middle : Nat
  high : Nat
  closed : Bool
  deriving DecidableEq, Repr

def interval (x : Double) : Interval where
  low := 4 * x.mantissa - (if x.mantissa == leastFullMantissa && leastExponent < x.exponent then 1 else 2)
  middle := 4 * x.mantissa
  high := 4 * x.mantissa + 2
  closed := x.mantissa % 2 == 0

def Interval.holds (i : Interval) (scale value : Nat) : Bool :=
  if i.closed then i.low * scale ≤ value && value ≤ i.high * scale
  else i.low * scale < value && value < i.high * scale

/-- The neighbour on the grid of step `10 ^ place` that rounds back to the number, the nearer one
if both do; a tie goes to the even digit. -/
def onGrid? (x : Double) (place : Int) : Option Nat :=
  let i := x.interval
  let (twoUp, twoDown) := twoPow (x.exponent - 2)
  let (tenUp, tenDown) := tenPow place
  let scale := twoUp * tenDown
  let unit := twoDown * tenUp
  let exact := i.middle * scale
  let below := exact / unit
  let remainder := exact % unit
  let lowFits := i.holds scale (below * unit) && below != 0
  let highFits := i.holds scale ((below + 1) * unit)
  if lowFits && highFits then
    if 2 * remainder < unit || (2 * remainder == unit && below % 2 == 0) then some below
    else some (below + 1)
  else if lowFits then some below
  else if highFits then some (below + 1)
  else none

/-- The position of the first digit: `10 ^ (p - 1) ≤ |x| < 10 ^ p`. -/
def firstPlace (x : Double) : Int :=
  let (num, den) := x.fraction
  let guess : Int := (decimalLength num : Int) - (decimalLength den : Int)
  let (up, down) := tenPow guess
  if num * down < den * up then guess else guess + 1

def searchGrid (x : Double) (first : Int) : List Nat → Decimal
  | [] => ⟨0, 0⟩
  | n :: more =>
    match x.onGrid? (first - n) with
    | some digits => ⟨digits, first - n⟩
    | none => searchGrid x first more

def Decimal.strip : Nat → Decimal → Decimal
  | 0, d => d
  | fuel + 1, d =>
    if d.digits != 0 && d.digits % 10 == 0 then strip fuel ⟨d.digits / 10, d.exponent + 1⟩ else d

/-- The shortest decimal that rounds to a number other than zero. Seventeen digits always do. -/
def shortest (x : Double) : Decimal :=
  (searchGrid x x.firstPlace ((List.range 17).map (· + 1))).strip 20

structure TextFormat where
  /-- A positive exponent has a plus sign. -/
  plusSign : Bool

/-- The text of `digits · 10 ^ exponent`: positional, with a point, when the first digit stands at
most sixteen places before and five after the point; else one digit, the others after a point, and
an exponent. -/
def Decimal.text (format : TextFormat) (d : Decimal) : String :=
  let digits := Nat.toDigits 10 d.digits
  let length : Int := digits.length
  let point := length + d.exponent
  if 0 ≤ d.exponent && point ≤ 16 then
    String.ofList (digits ++ List.replicate d.exponent.toNat '0' ++ ['.', '0'])
  else if 0 < point && point ≤ 16 then
    String.ofList (digits.take point.toNat ++ '.' :: digits.drop point.toNat)
  else if -5 < point && point ≤ 0 then
    String.ofList ('0' :: '.' :: List.replicate (-point).toNat '0' ++ digits)
  else
    let power := point - 1
    let sign := if power < 0 then "-" else if format.plusSign then "+" else ""
    let mantissa :=
      match digits with
      | first :: second :: rest => first :: '.' :: second :: rest
      | few => few
    String.ofList mantissa ++ "e" ++ sign ++ toString power.natAbs

def text (format : TextFormat) (x : Double) : String :=
  let sign := if x.negative then "-" else ""
  if x.isZero then sign ++ "0.0" else sign ++ x.shortest.text format

end SocketDocs.Double
