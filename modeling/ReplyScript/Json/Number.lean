import ReplyScript.Decimal.Binary
import ReplyScript.Text.Numeral

/-! # Numbers in JSON texts

A number text without fraction and exponent is a whole number while it fits in 64 bits; every other
number is binary floating-point. Its value is found in two rounded steps: the leading digits that
fit in 64 bits become a whole number, which is then multiplied or divided by one power of ten.
-/

namespace ReplyScript.Json

open Decimal
open Text (digitValue digitsValue)

/-- The number read from a number text. -/
inductive Number where
  | integer (n : Int)
  | float (x : Binary)
  deriving Repr, DecidableEq, BEq, Inhabited

structure NumberText where
  negative : Bool
  whole : List Char
  fraction : Option (List Char)
  exponent : Option Int
  deriving Repr, DecidableEq, BEq

/-- Read an exponent: `e` or `E`, an optional sign, digits. Outer `none` is a malformed exponent,
inner `none` is no exponent. -/
def exponent? : List Char → Option (Option Int × List Char)
  | c :: cs =>
      if c = 'e' ∨ c = 'E' then
        let (negative, rest) := match cs with
          | '-' :: r => (true, r)
          | '+' :: r => (false, r)
          | r => (false, r)
        match rest.takeWhile Char.isDigit with
        | [] => none
        | ds =>
            let n : Int := digitsValue ds
            some (some (if negative then -n else n), rest.dropWhile Char.isDigit)
      else some (none, c :: cs)
  | [] => some (none, [])

/-- Read a fraction: a point and digits. Outer `none` is a point without digits. -/
def fraction? : List Char → Option (Option (List Char) × List Char)
  | '.' :: cs =>
      match cs.takeWhile Char.isDigit with
      | [] => none
      | ds => some (some ds, cs.dropWhile Char.isDigit)
  | cs => some (none, cs)

/-- Read the digits before the point: a lone zero, or digits that do not start with zero. -/
def whole? : List Char → Option (List Char × List Char)
  | '0' :: cs => if (cs.head?.map Char.isDigit).getD false then none else some (['0'], cs)
  | cs =>
      match cs.takeWhile Char.isDigit with
      | [] => none
      | ds => some (ds, cs.dropWhile Char.isDigit)

def NumberText.readUnsigned (negative : Bool) (cs : List Char) :
    Option (NumberText × List Char) := do
  let (whole, cs) ← whole? cs
  let (fraction, cs) ← fraction? cs
  let (exponent, cs) ← exponent? cs
  return (⟨negative, whole, fraction, exponent⟩, cs)

def NumberText.read : List Char → Option (NumberText × List Char)
  | '-' :: cs => readUnsigned true cs
  | cs => readUnsigned false cs

/-- One more than the largest 64-bit whole number. -/
def wordLimit : Nat := UInt64.size

/-- Take digits on to a whole number while it fits in 64 bits; what is left is returned. -/
def takeDigits (n : Nat) : List Char → Nat × List Char
  | [] => (n, [])
  | c :: cs =>
      let m := 10 * n + digitValue c
      if m < wordLimit then takeDigits m cs else (n, c :: cs)

/-- Divide by a power of ten in steps of at most 308 places; zero needs no step. -/
def divideByPower (x : Binary) (places : Nat) : Option Binary :=
  if h : 308 < places then
    if x.isZero then some x
    else do
      let step ← binary64.ofDecimal false 1 308
      let y ← x.div? step
      divideByPower y (places - 308)
  else do
    let power ← binary64.ofDecimal false 1 places
    x.div? power
termination_by places
decreasing_by omega

/-- Scale a number by a power of ten. Beyond the largest number there is nothing. -/
def scaleByPower (x : Binary) (power : Int) : Option Binary :=
  if power < 0 then divideByPower x (-power).toNat
  else if 308 < power then if x.isZero then some x else none
  else do
    let factor ← binary64.ofDecimal false 1 power
    x.mul? factor

def NumberText.value? (t : NumberText) : Option Number :=
  let (n, dropped) := takeDigits 0 t.whole
  if t.fraction.isNone ∧ t.exponent.isNone ∧ dropped = [] ∧
      (if t.negative then n ≠ 0 ∧ n ≤ 0x8000000000000000 else True) then
    some (.integer (if t.negative then -(n : Int) else n))
  else do
    let fraction := t.fraction.getD []
    let (n, unused) := takeDigits n fraction
    let places := fraction.length - unused.length
    let x ← binary64.round t.negative n 1
    let y ← scaleByPower x (t.exponent.getD 0 + dropped.length - places)
    return .float y

end ReplyScript.Json
