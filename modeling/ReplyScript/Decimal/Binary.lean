/-! # Binary floating-point numbers

Finite binary floating-point numbers as exact values: a sign, a whole significand and a power of
two. `BinaryFormat.round` takes a fraction to the nearest number of a format, ties to the even
significand. All arithmetic is on whole numbers, so a number means exactly what its fields say.
-/

namespace ReplyScript.Decimal

/-- A finite binary number: plus or minus `significand * 2 ^ exponent`. Zero keeps its sign. -/
structure Binary where
  negative : Bool
  significand : Nat
  exponent : Int
  deriving Repr, DecidableEq, BEq, Inhabited

/-- The bounds of a binary format. -/
structure BinaryFormat where
  /-- Bits of a significand. -/
  precision : Nat
  /-- Exponent of the numbers around zero. -/
  minExponent : Int
  /-- Exponent of the largest numbers. -/
  maxExponent : Int

def binary64 : BinaryFormat := ⟨53, -1074, 971⟩

def binary32 : BinaryFormat := ⟨24, -149, 104⟩

/-- The whole number nearest to `num / den`, a half going to the even neighbour. -/
def roundHalfEven (num den : Nat) : Nat :=
  let quotient := num / den
  let twice := 2 * (num % den)
  if twice < den then quotient
  else if den < twice then quotient + 1
  else if quotient % 2 = 0 then quotient else quotient + 1

/-- `n * 2 ^ e` as a fraction of whole numbers. -/
def scaleFraction (num den : Nat) (e : Int) : Nat × Nat :=
  if 0 ≤ e then (num * Nat.pow 2 e.toNat, den) else (num, den * Nat.pow 2 (-e).toNat)

namespace BinaryFormat

/-- The exponent under which `num / den` has a significand of full precision, or the least
exponent of the format if that is higher. -/
def exponentOf (f : BinaryFormat) (num den : Nat) : Int :=
  let guess : Int := (num.log2 : Int) - den.log2 - f.precision
  let (n, d) := scaleFraction num den (-guess)
  max (if n / d < Nat.pow 2 f.precision then guess else guess + 1) f.minExponent

/-- The number of the format nearest to `num / den`, or nothing if that is beyond its largest. -/
def round (f : BinaryFormat) (negative : Bool) (num den : Nat) : Option Binary :=
  if num = 0 then some ⟨negative, 0, f.minExponent⟩
  else
    let e := f.exponentOf num den
    let (n, d) := scaleFraction num den (-e)
    let s := roundHalfEven n d
    let (s, e) := if s = Nat.pow 2 f.precision then (s / 2, e + 1) else (s, e)
    if f.maxExponent < e then none else some ⟨negative, s, e⟩

def ofDecimal (f : BinaryFormat) (negative : Bool) (digits : Nat) (power : Int) : Option Binary :=
  if 0 ≤ power then f.round negative (digits * Nat.pow 10 power.toNat) 1
  else f.round negative digits (Nat.pow 10 (-power).toNat)

end BinaryFormat

namespace Binary

/-- Whether a number is one of the two zeros. -/
def isZero (x : Binary) : Bool :=
  x.significand == 0

/-- The magnitude as a fraction of whole numbers. -/
def fraction (x : Binary) : Nat × Nat :=
  scaleFraction x.significand 1 x.exponent

/-- The value in units of `2 ^ e`, exact when `e` is not above the exponent. -/
def inUnitsOf (x : Binary) (e : Int) : Int :=
  let magnitude : Int := x.significand * Nat.pow 2 (x.exponent - e).toNat
  if x.negative then -magnitude else magnitude

/-- Whether two numbers have the same value; the zeros are equal. -/
def sameValue (x y : Binary) : Bool :=
  let e := min x.exponent y.exponent
  x.inUnitsOf e == y.inUnitsOf e

/-- The value of a whole number that is not negative. -/
def toNat? (x : Binary) : Option Nat :=
  let (n, d) := x.fraction
  if x.negative && !x.isZero then none
  else if n % d = 0 then some (n / d) else none

/-- The 64-bit number nearest to a whole number. -/
def ofInt (n : Int) : Option Binary :=
  binary64.round (n < 0) n.natAbs 1

/-- The 64-bit number nearest to a product of magnitudes. -/
def mul? (x y : Binary) : Option Binary :=
  let (a, b) := x.fraction
  let (c, d) := y.fraction
  binary64.round x.negative (a * c) (b * d)

/-- The 64-bit number nearest to a quotient of magnitudes. -/
def div? (x y : Binary) : Option Binary :=
  let (a, b) := x.fraction
  let (c, d) := y.fraction
  binary64.round x.negative (a * d) (b * c)

end Binary

end ReplyScript.Decimal
