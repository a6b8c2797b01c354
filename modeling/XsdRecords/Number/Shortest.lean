import XsdRecords.Number.Binary

/-! # The shortest decimal of a floating point number

A decimal reads back as a floating point number if it lies in the interval of reals that round to
it.  `shortest` takes the least number of digits for which the grid of that many digits meets the
interval, and of the points that do the nearest; the two neighbours of the value on the grid are the
only candidates.  `Floating.render` writes the digits positionally. -/

namespace XsdRecords.Number

/-- Positive reals `low`, `value` and `high` with a common denominator `den`; the ends of the
interval count iff `closed`. -/
structure RoundingInterval where
  low : Nat
  value : Nat
  high : Nat
  den : Nat
  closed : Bool
  deriving DecidableEq, Repr

/-- The reals that round to `mantissa * 2 ^ exponent`.  Below a power of two the next number is
only half as far away. -/
def BinaryFormat.interval (f : BinaryFormat) (mantissa : Nat) (exponent : Int) :
    RoundingInterval :=
  let below :=
    if mantissa = Nat.pow 2 (f.precision - 1) && f.minExponent < exponent then 1 else 2
  let e := exponent - 2
  let factor := if 0 ≤ e then Nat.pow 2 e.toNat else 1
  let den := if 0 ≤ e then 1 else Nat.pow 2 (-e).toNat
  ⟨(4 * mantissa - below) * factor, 4 * mantissa * factor, (4 * mantissa + 2) * factor, den,
    mantissa % 2 = 0⟩

namespace RoundingInterval

/-- Whether the real `num / den` lies in the interval. -/
def contains (i : RoundingInterval) (num den : Nat) : Bool :=
  if i.closed then i.low * den ≤ num * i.den && num * i.den ≤ i.high * den
  else i.low * den < num * i.den && num * i.den < i.high * den

/-- The power of ten just above the value: `10 ^ (k - 1) ≤ value < 10 ^ k`, for a value of at
least `10 ^ (-shift)`. -/
def decimalPoint (i : RoundingInterval) (shift : Nat) : Int :=
  (digitCount (i.value * Nat.pow 10 shift / i.den) : Int) - shift

/-- The point of the grid of multiples of `10 ^ exponent` that reads back, the nearer if both
neighbours of the value do, the upper one if they are equally near. -/
def onGrid? (i : RoundingInterval) (exponent : Int) : Option Nat :=
  let unit := if 0 ≤ exponent then Nat.pow 10 exponent.toNat else 1
  let den := if 0 ≤ exponent then 1 else Nat.pow 10 (-exponent).toNat
  let down := i.value * den / (i.den * unit)
  let up := down + 1
  let downIn := i.contains (down * unit) den
  let upIn := i.contains (up * unit) den
  let toDown := i.value * den - down * unit * i.den
  let toUp := up * unit * i.den - i.value * den
  if downIn && upIn then some (if toDown < toUp then down else up)
  else if downIn then some down
  else if upIn then some up
  else none

/-- The first grid that meets the interval, from `count` digits on. -/
def search (i : RoundingInterval) (point : Int) : Nat → Nat → Nat × Int
  | _, 0 => (0, 0)
  | count, fuel + 1 =>
    let exponent := point - count
    match i.onGrid? exponent with
    | some digits => (digits, exponent)
    | none => search i point (count + 1) fuel

end RoundingInterval

/-- The shortest decimal of a positive finite number, as digits and a power of ten. -/
def BinaryFormat.shortest (f : BinaryFormat) (mantissa : Nat) (exponent : Int) : Nat × Int :=
  let i := f.interval mantissa exponent
  i.search (i.decimalPoint (-f.minExponent).toNat) 1 f.precision

def dropTrailingZeros (digits : List Char) : List Char :=
  (digits.reverse.dropWhile (· = '0')).reverse

/-- Writes `0.digits * 10 ^ point` without an exponent. -/
def positional (digits : List Char) (point : Int) : List Char :=
  let zeros (n : Int) : List Char := List.replicate n.toNat '0'
  if point ≤ 0 then '0' :: '.' :: zeros (-point) ++ digits
  else if digits.length ≤ point then digits ++ zeros (point - digits.length)
  else digits.take point.toNat ++ '.' :: digits.drop point.toNat

/-- Writes a number of a format: the fewest digits that read back, always positionally. -/
def Floating.render (f : BinaryFormat) : Floating → String
  | .nan => "NaN"
  | .infinite negative => if negative then "-inf" else "inf"
  | .finite negative mantissa exponent =>
    let sign := if negative then "-" else ""
    if mantissa = 0 then sign ++ "0"
    else
      let (digits, power) := f.shortest mantissa exponent
      let digits := (toString digits).toList
      sign ++ String.ofList
        (positional (dropTrailingZeros digits) (digits.length + power))

end XsdRecords.Number
