import ReplyScript.Decimal.Binary

/-! # Shortest decimals

The fewest decimal digits that read back as the same binary number, and of those the nearest to it.
`Shortest` looks at the grids of 1, 2, … significant digits in turn; on each grid only the two
neighbours of the number can be nearest. There are two ways to write them: in full without an
exponent, and the form of a data format, which turns to an exponent for large and small numbers.
-/

namespace ReplyScript.Decimal

/-! ## Digits -/

/-- A positive decimal: `digits * 10 ^ power`. -/
structure Digits where
  digits : Nat
  power : Int
  deriving Repr, DecidableEq, BEq, Inhabited

/-- The number of decimal digits of a whole number; none for zero. -/
def digitCount (n : Nat) : Nat :=
  if n = 0 then 0 else (Nat.toDigits 10 n).length

/-- The power of ten of the leading digit of `num / den`, for positive numbers. -/
def leadingPower (num den : Nat) : Int :=
  if den ≤ num then (digitCount (num / den) : Int) - 1
  else -(digitCount ((den - 1) / num) : Int)

/-- Compare the fractions `a / b` and `c / d`. -/
def fractionLt (a b c d : Nat) : Bool :=
  a * d < c * b

/-- The reals that round to a binary number: two ends as fractions, and whether they belong. -/
structure RoundingInterval where
  low : Nat × Nat
  high : Nat × Nat
  closed : Bool

/-- Half a unit in the last place on either side; below a power of two the units are half as
wide. Ends belong to even significands. -/
def Binary.roundingInterval (f : BinaryFormat) (x : Binary) : RoundingInterval :=
  let s := x.significand
  let narrow := s = Nat.pow 2 (f.precision - 1) ∧ f.minExponent < x.exponent
  { low := if narrow then scaleFraction (4 * s - 1) 1 (x.exponent - 2)
           else scaleFraction (2 * s - 1) 1 (x.exponent - 1)
    high := scaleFraction (2 * s + 1) 1 (x.exponent - 1)
    closed := s % 2 = 0 }

/-- Whether the fraction `n / d` lies in the interval. -/
def RoundingInterval.contains (i : RoundingInterval) (n d : Nat) : Bool :=
  if i.closed then !fractionLt n d i.low.1 i.low.2 && !fractionLt i.high.1 i.high.2 n d
  else fractionLt i.low.1 i.low.2 n d && fractionLt n d i.high.1 i.high.2

def Digits.fraction (x : Digits) : Nat × Nat :=
  if 0 ≤ x.power then (x.digits * Nat.pow 10 x.power.toNat, 1)
  else (x.digits, Nat.pow 10 (-x.power).toNat)

/-- Remove trailing zeros from the digits; `fuel` bounds their number. -/
def Digits.trimZeros : Nat → Digits → Digits
  | 0, x => x
  | fuel + 1, x =>
      if x.digits ≠ 0 ∧ x.digits % 10 = 0 then trimZeros fuel ⟨x.digits / 10, x.power + 1⟩ else x

/-- Which of two digits a number goes to that lies half-way between them. -/
inductive HalfWay where
  | up
  /-- To the even digit. -/
  | even
  deriving Repr, DecidableEq, BEq

/-- Whether the neighbour below is taken for a number that is `rest / den` of a step above it. -/
def HalfWay.takesLower (tie : HalfWay) (lower rest den : Nat) : Bool :=
  2 * rest < den || (2 * rest == den && tie == .even && lower % 2 == 0)

/-- The neighbour of `num / den` on the grid of step `10 ^ power` that lies in the interval, the
nearer one if both do. -/
def nearestOnGrid (tie : HalfWay) (i : RoundingInterval) (num den : Nat) (power : Int) :
    Option Digits :=
  let (n, d) :=
    if 0 ≤ power then (num, den * Nat.pow 10 power.toNat)
    else (num * Nat.pow 10 (-power).toNat, den)
  let below : Digits := ⟨n / d, power⟩
  let above : Digits := ⟨n / d + 1, power⟩
  let fits (x : Digits) : Bool := x.digits != 0 && i.contains x.fraction.1 x.fraction.2
  match fits below, fits above with
  | true, true => some (if tie.takesLower (n / d) (n % d) d then below else above)
  | true, false => some below
  | false, true => some above
  | false, false => none

/-- Try grids of ever more significant digits; `fuel` bounds how many are left to try. -/
def searchGrids (tie : HalfWay) (i : RoundingInterval) (num den : Nat) (lead : Int) :
    Nat → Nat → Digits
  | 0, _ => ⟨num / den, 0⟩
  | fuel + 1, count =>
      match nearestOnGrid tie i num den (lead - count) with
      | some x => x
      | none => searchGrids tie i num den lead fuel (count + 1)

/-- The shortest decimal that reads back as the magnitude of a number of the format. Zero has the
digit zero. -/
def Binary.shortest (f : BinaryFormat) (tie : HalfWay) (x : Binary) : Digits :=
  if x.isZero then ⟨0, 0⟩
  else
    let (num, den) := x.fraction
    (searchGrids tie (x.roundingInterval f) num den (leadingPower num den) 20 0).trimZeros 20

/-! ## Written forms -/

/-- Digits with a decimal point, without an exponent. A point is written only where digits follow
it. -/
def plainDigits (x : Digits) : List Char :=
  let ds := Nat.toDigits 10 x.digits
  if 0 ≤ x.power then
    if x.digits = 0 then ['0'] else ds ++ List.replicate x.power.toNat '0'
  else
    let places := (-x.power).toNat
    if places < ds.length then ds.take (ds.length - places) ++ '.' :: ds.drop (ds.length - places)
    else '0' :: '.' :: (List.replicate (places - ds.length) '0' ++ ds)

/-- Where a data format stops writing numbers in full. -/
structure ExponentLayout where
  /-- Least power of ten of the leading digit that is written in full. -/
  least : Int
  /-- Greatest power of ten of the leading digit that is written in full. -/
  greatest : Int
  /-- The sign of a positive exponent. -/
  positiveSign : List Char

/-- Numbers in data: in full from 0.00001 up to sixteen digits before the point. -/
def dataLayout : ExponentLayout := ⟨-5, 15, ['+']⟩

/-- Digits in full with at least one place after the point, or with one digit before the point
and an exponent. -/
def ExponentLayout.write (layout : ExponentLayout) (x : Digits) : List Char :=
  let ds := Nat.toDigits 10 x.digits
  let lead := x.power + ds.length - 1
  if x.digits = 0 then ['0', '.', '0']
  else if layout.least ≤ lead ∧ lead ≤ layout.greatest then
    plainDigits x ++ (if 0 ≤ x.power then ['.', '0'] else [])
  else
    let mantissa := match ds with
      | d :: d' :: more => d :: '.' :: d' :: more
      | short => short
    let exponent := if lead < 0 then '-' :: Nat.toDigits 10 lead.natAbs
      else layout.positiveSign ++ Nat.toDigits 10 lead.natAbs
    mantissa ++ 'e' :: exponent

/-- Put the sign in front. -/
def withSign (x : Binary) (magnitude : List Char) : String :=
  String.ofList (if x.negative then '-' :: magnitude else magnitude)

/-- The shortest digits of a 64-bit number, in full. A tie goes up. -/
def Binary.plain (x : Binary) : String :=
  withSign x (plainDigits (x.shortest binary64 .up))

/-- The shortest digits of a 64-bit number, as data. A tie goes to the even digit. -/
def Binary.asData (x : Binary) : String :=
  withSign x (dataLayout.write (x.shortest binary64 .even))

end ReplyScript.Decimal
