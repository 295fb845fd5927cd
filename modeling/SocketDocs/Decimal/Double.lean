/-!
# Binary floating-point numbers

A finite number of the IEEE 754 binary64 format, kept exactly: sign, integer mantissa and power of
two. Infinities and NaN are no values here; an operation whose result would be infinite gives
`none`.
-/

namespace SocketDocs

/-- The number `± mantissa · 2 ^ exponent`. The functions below build only numbers of the format:
`mantissa < 2 ^ 53` and `-1074 ≤ exponent ≤ 971`, with `2 ^ 52 ≤ mantissa` unless the exponent is
the least one. -/
structure Double where
  negative : Bool
  mantissa : Nat
  exponent : Int
  deriving DecidableEq, Repr

namespace Double

def leastExponent : Int := -1074

def greatestExponent : Int := 971

def leastFullMantissa : Nat := 4503599627370496

def zero (negative : Bool) : Double :=
  ⟨negative, 0, leastExponent⟩

def isZero (x : Double) : Bool :=
  x.mantissa == 0

/-- The sign does not tell zeros apart. -/
def equal (x y : Double) : Bool :=
  x == y || (x.isZero && y.isZero)

def twoPow (e : Int) : Nat × Nat :=
  (Nat.pow 2 e.toNat, Nat.pow 2 (-e).toNat)

def tenPow (e : Int) : Nat × Nat :=
  (Nat.pow 10 e.toNat, Nat.pow 10 (-e).toNat)

def roundDiv (num den : Nat) : Nat :=
  let q := num / den
  let twice := 2 * (num % den)
  if den < twice || (twice == den && q % 2 == 1) then q + 1 else q

/-- The exponent for which `num / den` has a mantissa of 53 bits, or the least exponent. -/
def exponentFor (num den : Nat) : Int :=
  let guess : Int := (num.log2 : Int) - (den.log2 : Int) - 53
  let (up, down) := twoPow guess
  max leastExponent (if 2 * leastFullMantissa ≤ num * down / (den * up) then guess + 1 else guess)

/-- The number nearest to `num / den`; a tie goes to the even mantissa. `none` when that is
infinite. -/
def round (negative : Bool) (num den : Nat) : Option Double :=
  if num == 0 then some (zero negative)
  else
    let e := exponentFor num den
    let (up, down) := twoPow e
    let m := roundDiv (num * down) (den * up)
    let (m, e) := if m == 2 * leastFullMantissa then (leastFullMantissa, e + 1) else (m, e)
    if greatestExponent < e then none else some ⟨negative, m, e⟩

def fraction (x : Double) : Nat × Nat :=
  let (up, down) := twoPow x.exponent
  (x.mantissa * up, down)

def mul (x y : Double) : Option Double :=
  let (a, b) := x.fraction
  let (c, d) := y.fraction
  round (x.negative != y.negative) (a * c) (b * d)

def div (x y : Double) : Option Double :=
  let (a, b) := x.fraction
  let (c, d) := y.fraction
  round (x.negative != y.negative) (a * d) (b * c)

def ofNat (n : Nat) : Option Double :=
  round false n 1

def decimalLength (n : Nat) : Nat :=
  (Nat.toDigits 10 n).length

/-- The number nearest to `± digits · 10 ^ exponent`. Exponents far outside the format's range are
settled by the position of the first digit, before any power is computed. -/
def ofDecimal (negative : Bool) (digits : Nat) (exponent : Int) : Option Double :=
  if digits == 0 then some (zero negative)
  else
    let position := (decimalLength digits : Int) + exponent
    if 310 < position then none
    else if position < -330 then some (zero negative)
    else
      let (up, down) := tenPow exponent
      round negative (digits * up) down

end Double

end SocketDocs
