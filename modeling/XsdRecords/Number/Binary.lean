/-! # Binary floating point numbers

A finite number is a sign, a mantissa and a power of two.  `BinaryFormat.nearest` rounds a positive
ratio to the nearest number of a format, a tie going to the even mantissa; reading a decimal and
narrowing a number to a smaller format are both that one rounding. -/

namespace XsdRecords.Number

/-- A binary format: its finite numbers are `m * 2 ^ e` with `m < 2 ^ precision` and `e` between
the two exponents. -/
structure BinaryFormat where
  precision : Nat
  minExponent : Int
  maxExponent : Int
  deriving DecidableEq, Repr

def BinaryFormat.double : BinaryFormat := ⟨53, -1074, 971⟩

def BinaryFormat.single : BinaryFormat := ⟨24, -149, 104⟩

inductive Floating where
  | nan
  | infinite (negative : Bool)
  /-- The number `mantissa * 2 ^ exponent`, with its sign. -/
  | finite (negative : Bool) (mantissa : Nat) (exponent : Int)
  deriving DecidableEq, Repr

/-- The quotient of two numbers rounded to the nearest integer, a tie going to the even one. -/
def divEven (num den : Nat) : Nat :=
  let q := num / den
  let r := num % den
  if den < 2 * r || (2 * r = den && q % 2 = 1) then q + 1 else q

/-- The ratio `num / den` divided by `2 ^ e`, as a ratio. -/
def scaleDown (num den : Nat) (e : Int) : Nat × Nat :=
  if 0 ≤ e then (num, den * Nat.pow 2 e.toNat) else (num * Nat.pow 2 (-e).toNat, den)

namespace BinaryFormat

/-- The exponent at which a positive ratio has all the digits that the format can hold. -/
def exponentOf (f : BinaryFormat) (num den : Nat) : Int :=
  let e := max ((num.log2 : Int) - den.log2 - f.precision) f.minExponent
  let (n, d) := scaleDown num den e
  if Nat.pow 2 f.precision ≤ n / d then e + 1 else e

/-- The number of the format nearest to `num / den`. -/
def nearest (f : BinaryFormat) (negative : Bool) (num den : Nat) : Floating :=
  if num = 0 then .finite negative 0 f.minExponent
  else
    let e := f.exponentOf num den
    let (n, d) := scaleDown num den e
    let m := divEven n d
    let (m, e) := if m = Nat.pow 2 f.precision then (Nat.pow 2 (f.precision - 1), e + 1) else (m, e)
    if f.maxExponent < e then .infinite negative else .finite negative m e

/-- The number of the format nearest to a number of another format. -/
def narrow (f : BinaryFormat) : Floating → Floating
  | .nan => .nan
  | .infinite negative => .infinite negative
  | .finite negative m e =>
    if 0 ≤ e then f.nearest negative (m * Nat.pow 2 e.toNat) 1
    else f.nearest negative m (Nat.pow 2 (-e).toNat)

end BinaryFormat

/-- A decimal: `digits * 10 ^ exponent`, with a sign. -/
structure Decimal where
  negative : Bool
  digits : Nat
  exponent : Int
  deriving DecidableEq, Repr

/-- The number of decimal digits of a number; zero has one. -/
def digitCount (n : Nat) : Nat :=
  (toString n).length

/-- Powers of ten beyond this one are past the range of every format here. -/
def decimalLimit : Nat := 400

/-- The number of a format nearest to a decimal. -/
def BinaryFormat.ofDecimal (f : BinaryFormat) (d : Decimal) : Floating :=
  let magnitude : Int := digitCount d.digits + d.exponent
  if d.digits = 0 || magnitude < -(decimalLimit : Int) then f.nearest d.negative 0 1
  else if (decimalLimit : Int) < magnitude then .infinite d.negative
  else if 0 ≤ d.exponent then f.nearest d.negative (d.digits * Nat.pow 10 d.exponent.toNat) 1
  else f.nearest d.negative d.digits (Nat.pow 10 (-d.exponent).toNat)

/-- The value of a run of decimal digits. -/
def digitsValue (cs : List Char) : Nat :=
  cs.foldl (fun value c => value * 10 + (c.toNat - 0x30)) 0

def isDigit (c : Char) : Bool :=
  0x30 ≤ c.toNat && c.toNat ≤ 0x39

/-- Splits an optional sign off; the flag says whether it was a minus. -/
def splitSign : List Char → Bool × List Char
  | '-' :: rest => (true, rest)
  | '+' :: rest => (false, rest)
  | cs => (false, cs)

/-- Reads what follows the digits of a decimal: nothing, or `e` and a signed number. -/
def readExponent? : List Char → Option Int
  | [] => some 0
  | c :: rest =>
    if c = 'e' || c = 'E' then
      let (negative, digits) := splitSign rest
      if digits ≠ [] && digits.all isDigit then
        some (if negative then -(digitsValue digits : Int) else digitsValue digits)
      else none
    else none

/-- Reads a decimal: a sign, digits with at most one point among or around them, an exponent. -/
def Decimal.read? (cs : List Char) : Option Decimal :=
  let (negative, cs) := splitSign cs
  let whole := cs.takeWhile isDigit
  let afterWhole := cs.dropWhile isDigit
  let (fraction, rest) := match afterWhole with
    | '.' :: rest => (rest.takeWhile isDigit, rest.dropWhile isDigit)
    | rest => ([], rest)
  if whole = [] && fraction = [] then none
  else
    (readExponent? rest).map fun exponent =>
      ⟨negative, digitsValue (whole ++ fraction), exponent - fraction.length⟩

end XsdRecords.Number
