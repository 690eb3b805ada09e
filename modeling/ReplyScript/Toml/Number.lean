import ReplyScript.Json.Quoted
import ReplyScript.Text.Numeral
import ReplyScript.Toml.Value

/-! # Numbers and moments in TOML documents

Whole numbers have 64 bits and may be written in four bases; underscores may stand between digits.
Dates and times are checked, but only their presence is kept.
-/

namespace ReplyScript.Toml

open Decimal (Binary binary64)
open Json (push hexDigit?)
open Text (digitsValue)

/-- Read digits, with underscores between them. -/
def moreDigits (isDigit : Char → Bool) : List Char → Option (List Char × List Char)
  | [] => some ([], [])
  | '_' :: d :: rest => if isDigit d then push d (moreDigits isDigit rest) else none
  | ['_'] => none
  | c :: rest => if isDigit c then push c (moreDigits isDigit rest) else some ([], c :: rest)

def readDigits (isDigit : Char → Bool) (cs : List Char) : Option (List Char × List Char) :=
  match cs with
  | c :: _ => if isDigit c then moreDigits isDigit cs else none
  | [] => none

/-- Read a sign, if there is one: whether it is a minus. -/
def readSign : List Char → Bool × List Char
  | '-' :: rest => (true, rest)
  | '+' :: rest => (false, rest)
  | cs => (false, cs)

def integer? (n : Int) : Option Value :=
  if -0x8000000000000000 ≤ n ∧ n < 0x8000000000000000 then some (.integer n) else none

def readInBase (base : Nat) (cs : List Char) : Option (Value × List Char) := do
  let (digits, rest) ← readDigits (fun c => (hexDigit? c).any (· < base)) cs
  let n := digits.foldl (fun n c => base * n + (hexDigit? c).getD 0) 0
  return (← integer? n, rest)

/-- The number nearest to `digits * 10 ^ power`. It may be infinite only below zero. -/
def decimal? (negative : Bool) (digits : List Char) (power : Int) : Option Float :=
  let n := digitsValue digits
  let lead := power + digits.length
  if n = 0 ∨ lead < -400 then some (.finite ⟨negative, 0, binary64.minExponent⟩)
  else match if 400 + digits.length < lead then none else binary64.ofDecimal negative n power with
    | some x => some (.finite x)
    | none => if negative then some (.infinite true) else none

/-- Read the digits before the point: a lone zero, or digits that do not start with zero. -/
def readWhole : List Char → Option (List Char × List Char)
  | '0' :: rest => some (['0'], rest)
  | cs => readDigits Char.isDigit cs

def readFraction : List Char → Option (List Char × List Char)
  | '.' :: rest => readDigits Char.isDigit rest
  | cs => some ([], cs)

def readExponent : List Char → Option (Option Int × List Char)
  | 'e' :: rest | 'E' :: rest => do
      let (negative, rest) := readSign rest
      let (digits, rest) ← readDigits Char.isDigit rest
      let n : Int := digitsValue digits
      return (some (if negative then -n else n), rest)
  | cs => some (none, cs)

def readDecimal (cs : List Char) : Option (Value × List Char) := do
  let (negative, unsigned) := readSign cs
  match unsigned with
  | 'i' :: 'n' :: 'f' :: rest => return (.float (.infinite negative), rest)
  | 'n' :: 'a' :: 'n' :: rest => return (.float .notANumber, rest)
  | _ =>
    let (whole, rest) ← readWhole unsigned
    let (fraction, rest) ← readFraction rest
    let (exponent, rest) ← readExponent rest
    if fraction = [] ∧ exponent = none then
      let n : Int := digitsValue whole
      return (← integer? (if negative then -n else n), rest)
    else
      let x ← decimal? negative (whole ++ fraction) (exponent.getD 0 - fraction.length)
      return (.float x, rest)

def readNumber : List Char → Option (Value × List Char)
  | '0' :: 'x' :: rest => readInBase 16 rest
  | '0' :: 'o' :: rest => readInBase 8 rest
  | '0' :: 'b' :: rest => readInBase 2 rest
  | cs => readDecimal cs

/-- Read a number of so many digits between two bounds. -/
def readPart (count low high : Nat) (cs : List Char) : Option (Nat × List Char) := do
  let digits := cs.take count
  let n ← Text.digits? digits
  if digits.length = count ∧ low ≤ n ∧ n ≤ high then some (n, cs.drop count) else none

/-- Remove a character from the start. -/
def after? (c : Char) : List Char → Option (List Char)
  | d :: rest => if d = c then some rest else none
  | [] => none

/-- Every fourth year, but of the full centuries only every fourth. -/
def isLeapYear (year : Nat) : Bool :=
  year % 4 == 0 && (year % 100 != 0 || year % 400 == 0)

def daysIn (year month : Nat) : Nat :=
  if month = 2 then (if isLeapYear year then 29 else 28)
  else if month ∈ [4, 6, 9, 11] then 30 else 31

def readDate (cs : List Char) : Option (List Char) := do
  let (year, rest) ← readPart 4 0 9999 cs
  let (month, rest) ← readPart 2 1 12 (← after? '-' rest)
  let (_, rest) ← readPart 2 1 (daysIn year month) (← after? '-' rest)
  return rest

def readTime (cs : List Char) : Option (List Char) := do
  let (_, rest) ← readPart 2 0 23 cs
  let (_, rest) ← readPart 2 0 59 (← after? ':' rest)
  let (_, rest) ← readPart 2 0 60 (← after? ':' rest)
  match rest with
  | '.' :: d :: rest => if d.isDigit then some (rest.dropWhile Char.isDigit) else none
  | ['.'] => none
  | rest => some rest

/-- Read the distance from universal time, if there is one. -/
def readOffset : List Char → Option (List Char)
  | 'Z' :: rest | 'z' :: rest => some rest
  | '+' :: rest | '-' :: rest => do
      let (_, rest) ← readPart 2 0 23 rest
      let (_, rest) ← readPart 2 0 59 (← after? ':' rest)
      return rest
  | cs => some cs

/-- Whether the text starts with so many digits and a mark. -/
def startsWithPart (count : Nat) (mark : Char) (cs : List Char) : Bool :=
  (cs.take count).all Char.isDigit && (cs.drop count).head? == some mark

/-- Read a date, a time or both. -/
def readMoment (cs : List Char) : Option (List Char) :=
  if startsWithPart 2 ':' cs then readTime cs
  else do
    let rest ← readDate cs
    match rest with
    | c :: time =>
        if (c = 'T' ∨ c = 't' ∨ c = ' ') ∧ startsWithPart 2 ':' time then
          readOffset (← readTime time)
        else some rest
    | [] => some []

/-- Whether what follows is a moment, or nothing valid. -/
def startsMoment (cs : List Char) : Bool :=
  startsWithPart 4 '-' cs || startsWithPart 2 ':' cs

end ReplyScript.Toml
