import ReplyScript.Decimal.Shortest
import ReplyScript.Text.Numeral

/-! # Formats

How numbers and texts are written by a conversion with flags, a width and a precision, and how the
escapes of formats are read.
-/

namespace ReplyScript.Utility

open Decimal (Binary BinaryFormat leadingPower roundHalfEven)

/-- What stands between the percent sign and the letter of a conversion. -/
structure Conversion where
  left : Bool := false
  plus : Bool := false
  space : Bool := false
  alternate : Bool := false
  zeros : Bool := false
  width : Nat := 0
  precision : Option Nat := none
  deriving Repr, DecidableEq, BEq, Inhabited

namespace Conversion

def withFlag (c : Conversion) : Char → Conversion
  | '-' => { c with left := true }
  | '+' => { c with plus := true }
  | ' ' => { c with space := true }
  | '#' => { c with alternate := true }
  | '0' => { c with zeros := true }
  | _ => c

/-- Set the width; a negative one means that blanks come behind. -/
def withWidth (c : Conversion) (width : Int) : Conversion :=
  { c with width := width.natAbs, left := c.left || width < 0 }

/-- Fill up to the width. `sign` stays in front of zeros. -/
def fill (c : Conversion) (sign body : String) (zeros : Bool) : String :=
  let gap := c.width - (sign.length + body.length)
  let blanks := String.ofList (List.replicate gap ' ')
  if c.left then sign ++ body ++ blanks
  else if zeros then sign ++ String.ofList (List.replicate gap '0') ++ body
  else blanks ++ sign ++ body

def text (c : Conversion) (s : String) : String :=
  c.fill "" (match c.precision with
    | some n => String.ofList (s.toList.take n)
    | none => s) false

def sign (c : Conversion) (negative : Bool) : String :=
  if negative then "-" else if c.plus then "+" else if c.space then " " else ""

/-- Digits with zeros in front up to the precision; zero has none if the precision is 0. -/
def digits (c : Conversion) (base n : Nat) : String :=
  let ds := if n = 0 ∧ c.precision = some 0 then [] else Nat.toDigits base n
  String.ofList (List.replicate (c.precision.getD 0 - ds.length) '0' ++ ds)

def whole (c : Conversion) (n : Int) : String :=
  c.fill (c.sign (n < 0)) (c.digits 10 n.natAbs) (c.zeros && c.precision.isNone)

/-- A whole number that is not negative, in the base that a letter stands for. -/
def natural (c : Conversion) (letter : Char) (n : Nat) : String :=
  let zeros := c.zeros && c.precision.isNone
  match letter with
  | 'o' =>
      let ds := c.digits 8 n
      c.fill "" (if c.alternate ∧ ds.toList.head? ≠ some '0' then "0" ++ ds else ds) zeros
  | 'x' => c.fill (if c.alternate ∧ n ≠ 0 then "0x" else "") (c.digits 16 n) zeros
  | 'X' =>
      c.fill (if c.alternate ∧ n ≠ 0 then "0X" else "")
        (String.ofList ((c.digits 16 n).toList.map Char.toUpper)) zeros
  | _ => c.fill "" (c.digits 10 n) zeros

end Conversion

/-- A number as it is printed with a point. -/
inductive Quantity where
  | finite (negative : Bool) (num den : Nat)
  | infinite (negative : Bool)
  | notNumber
  deriving Repr, DecidableEq, BEq, Inhabited

/-- Digits with a point in front of the last `places` of them. -/
def withPoint (alternate : Bool) (places n : Nat) : String :=
  let ds := Nat.toDigits 10 n
  let ds := List.replicate (places + 1 - ds.length) '0' ++ ds
  String.ofList <| ds.take (ds.length - places)
    ++ (if places = 0 ∧ !alternate then [] else ['.']) ++ ds.drop (ds.length - places)

/-- A fraction with a number of places. -/
def fixedPlaces (alternate : Bool) (places num den : Nat) : String :=
  withPoint alternate places (roundHalfEven (num * Nat.pow 10 places) den)

/-- The first `count` digits of a fraction, rounded, and the power of ten of the leading one. -/
def leadingDigits (count num den : Nat) : Nat × Int :=
  if num = 0 then (0, 0)
  else
    let lead := leadingPower num den
    let shift : Int := (count : Int) - 1 - lead
    let n := if 0 ≤ shift then roundHalfEven (num * Nat.pow 10 shift.toNat) den
      else roundHalfEven num (den * Nat.pow 10 (-shift).toNat)
    if n = Nat.pow 10 count then (Nat.pow 10 (count - 1), lead + 1) else (n, lead)

def withExponent (alternate : Bool) (places num den : Nat) : String :=
  let (n, power) := leadingDigits (places + 1) num den
  let ds := Nat.toDigits 10 power.natAbs
  withPoint alternate places n ++ "e" ++ (if power < 0 then "-" else "+")
    ++ String.ofList (List.replicate (2 - ds.length) '0' ++ ds)

/-- A text without zeros at the end of its places. -/
def dropZeros (s : String) : String :=
  let cs := s.toList
  if cs.contains '.' then
    match cs.reverse.dropWhile (· == '0') with
    | '.' :: rest => String.ofList rest.reverse
    | rest => String.ofList rest.reverse
  else s

/-- A fraction with or without an exponent, whichever is shorter. -/
def shorterForm (alternate : Bool) (precision num den : Nat) : String :=
  let precision := max precision 1
  let (_, power) := leadingDigits precision num den
  if power < -4 ∨ (precision : Int) ≤ power then
    let s := withExponent alternate (precision - 1) num den
    if alternate then s
    else
      let mantissa := s.toList.takeWhile (· ≠ 'e')
      dropZeros (String.ofList mantissa) ++ String.ofList (s.toList.drop mantissa.length)
  else
    let s := fixedPlaces alternate ((precision : Int) - 1 - power).toNat num den
    if alternate then s else dropZeros s

/-- A number with a point, as a letter asks for it. -/
def Conversion.quantity (c : Conversion) (letter : Char) (q : Quantity) : String :=
  let places := c.precision.getD 6
  let upper := letter.isUpper
  let finish (negative : Bool) (body : String) (zeros : Bool) : String :=
    let body := if upper then String.ofList (body.toList.map Char.toUpper) else body
    c.fill (c.sign negative) body zeros
  match q with
  | .infinite negative => finish negative "inf" false
  | .notNumber => finish false "nan" false
  | .finite negative num den =>
      let body := match letter.toLower with
        | 'f' => fixedPlaces c.alternate places num den
        | 'e' => withExponent c.alternate places num den
        | _ => shorterForm c.alternate places num den
      finish negative body c.zeros

/-- The exponent behind a number, and how many characters it takes. -/
def exponentPart (cs : List Char) : Int × Nat :=
  match cs with
  | e :: rest =>
      let (negative, digits, signs) := match rest with
        | '-' :: digits => (true, digits, 1)
        | '+' :: digits => (false, digits, 1)
        | digits => (false, digits, 0)
      let digits := digits.takeWhile Char.isDigit
      if (e = 'e' ∨ e = 'E') ∧ digits ≠ [] then
        let n : Int := min (Text.digitsValue digits) 5000
        (if negative then -n else n, 1 + signs + digits.length)
      else (0, 0)
  | [] => (0, 0)

/-- The number at the start of a text in a binary format, and what follows it. -/
def readQuantity (f : BinaryFormat) (s : String) : Quantity × List Char :=
  let cs := s.toList.dropWhile fun c => c = ' ' ∨ (9 ≤ c.toNat ∧ c.toNat ≤ 13)
  let (negative, body) := match cs with
    | '-' :: cs => (true, cs)
    | '+' :: cs => (false, cs)
    | cs => (false, cs)
  let starts (word : String) : Bool := word.toList.isPrefixOf (body.map Char.toLower)
  if starts "infinity" then (.infinite negative, body.drop 8)
  else if starts "inf" then (.infinite negative, body.drop 3)
  else if starts "nan" then (.notNumber, body.drop 3)
  else
    let whole := body.takeWhile Char.isDigit
    let rest := body.drop whole.length
    let fraction := match rest with
      | '.' :: rest => rest.takeWhile Char.isDigit
      | _ => []
    let rest := match rest with
      | '.' :: rest => if whole = [] ∧ fraction = [] then '.' :: rest else rest.drop fraction.length
      | rest => rest
    if whole = [] ∧ fraction = [] then (.finite false 0 1, s.toList)
    else
      let (power, used) := exponentPart rest
      match f.ofDecimal negative (Text.digitsValue (whole ++ fraction))
          (power - fraction.length) with
      | some x => (.finite negative x.fraction.1 x.fraction.2, rest.drop used)
      | none => (.infinite negative, rest.drop used)

def binary80 : BinaryFormat := ⟨64, -16445, 16320⟩

/-- The whole number at the start of a text in the base that its first characters say, and what
follows it. -/
def readWhole (s : String) : Int × List Char :=
  let cs := s.toList.dropWhile fun c => c = ' ' ∨ (9 ≤ c.toNat ∧ c.toNat ≤ 13)
  let (negative, body) := match cs with
    | '-' :: cs => (true, cs)
    | '+' :: cs => (false, cs)
    | cs => (false, cs)
  let isHex (c : Char) : Bool := c.isDigit || ('a' ≤ c && c ≤ 'f') || ('A' ≤ c && c ≤ 'F')
  let value (c : Char) : Nat := if c.isDigit then c.toNat - 48 else c.toLower.toNat - 87
  let (base, digits, rest) := match body with
    | '0' :: x :: h :: rest =>
        if (x = 'x' ∨ x = 'X') ∧ isHex h then
          (16, (h :: rest).takeWhile isHex, (h :: rest).dropWhile isHex)
        else
          let isOctal (c : Char) : Bool := '0' ≤ c && c ≤ '7'
          (8, body.takeWhile isOctal, body.dropWhile isOctal)
    | '0' :: rest =>
        let isOctal (c : Char) : Bool := '0' ≤ c && c ≤ '7'
        (8, '0' :: rest.takeWhile isOctal, rest.dropWhile isOctal)
    | body => (10, body.takeWhile Char.isDigit, body.dropWhile Char.isDigit)
  if digits = [] then (0, s.toList)
  else
    let n : Nat := digits.foldl (fun n c => base * n + value c) 0
    (if negative then -(n : Int) else n, rest)

/-- The control that a letter behind a backslash stands for. -/
def escapedControl? : Char → Option Char
  | 'a' => some '\x07'
  | 'b' => some '\x08'
  | 'f' => some '\x0c'
  | 'n' => some '\n'
  | 'r' => some '\r'
  | 't' => some '\t'
  | 'v' => some '\x0b'
  | '\\' => some '\\'
  | _ => none

/-- A byte in octal, of at most some digits, and what follows it. -/
def octalByte (most : Nat) (cs : List Char) : Char × List Char :=
  let digits := (cs.take most).takeWhile fun c => '0' ≤ c && c ≤ '7'
  (Char.ofNat (digits.foldl (fun n c => 8 * n + Text.digitValue c) 0 % 256), cs.drop digits.length)

/-- What escapes mean to someone. -/
structure EscapeStyle where
  /-- Letters that stand for characters, besides the usual ones. -/
  more : List (Char × Char) := []
  /-- Octal bytes need no zero in front. -/
  bareOctal : Bool := true
  /-- Bytes may be written in two hexadecimal digits behind an `x`. -/
  hexadecimal : Bool := false

/-- What a backslash makes of the text behind it; nothing if it stands for itself. -/
def EscapeStyle.read (e : EscapeStyle) (cs : List Char) : Option (Char × List Char) :=
  match cs with
  | [] => none
  | c :: rest =>
      if '0' ≤ c ∧ c ≤ '7' ∧ e.bareOctal then some (octalByte 3 cs)
      else match (escapedControl? c).or (e.more.lookup c) with
        | some control => some (control, rest)
        | none =>
            let isHex (c : Char) : Bool :=
              c.isDigit || ('a' ≤ c && c ≤ 'f') || ('A' ≤ c && c ≤ 'F')
            let digits := (rest.take 2).takeWhile isHex
            if e.hexadecimal ∧ c = 'x' ∧ digits ≠ [] then
              let value (c : Char) : Nat :=
                if c.isDigit then c.toNat - 48 else c.toLower.toNat - 87
              some (Char.ofNat (digits.foldl (fun n c => 16 * n + value c) 0),
                rest.drop digits.length)
            else none

/-- A text with its escapes replaced, where octal bytes may have a zero in front; and whether it
went on to its end, which `\c` prevents. -/
def EscapeStyle.unescape (e : EscapeStyle) : (fuel : Nat) → List Char → List Char × Bool
  | 0, _ | _, [] => ([], true)
  | _, '\\' :: 'c' :: _ => ([], false)
  | fuel + 1, '\\' :: cs =>
      let (c, rest) := match cs with
        | '0' :: digits => octalByte 3 digits
        | cs => (e.read cs).getD ('\\', cs)
      let (more, on) := e.unescape fuel rest
      (c :: more, on)
  | fuel + 1, c :: cs =>
      let (more, on) := e.unescape fuel cs
      (c :: more, on)

/-- What a format has come to. -/
structure FormatResult where
  output : List Char := []
  complaints : List String := []
  /-- What was so wrong that nothing more is printed. -/
  fatal : Option String := none
  stopped : Bool := false
  args : List String

/-- How formats are understood, and what is said of what is wrong with them. -/
structure FormatStyle where
  escapes : EscapeStyle
  floats : BinaryFormat
  /-- Of an argument that should be a number and is none. -/
  notNumber : String → String
  /-- Of an argument that has more to it than a number. -/
  leftover : String → String
  /-- Of a number that is too large. -/
  outOfRange : String → String
  /-- Of a conversion that is none. -/
  badDirective : String → String
  /-- Of a conversion without a letter. -/
  noLetter : String → String

namespace FormatStyle

/-- Take a number from the arguments. A character behind a quotation mark counts as its number. -/
def takeWhole (f : FormatStyle) (low high : Int) (r : FormatResult) : Int × FormatResult :=
  match r.args with
  | [] => (0, r)
  | arg :: args =>
      let r := { r with args }
      match arg.toList with
      | '"' :: c :: _ | '\'' :: c :: _ => (c.toNat, r)
      | _ =>
          let (n, rest) := readWhole arg
          let complain (message : String) : FormatResult :=
            { r with complaints := r.complaints ++ [message] }
          if rest ≠ [] then
            (n, complain (if rest = arg.toList then f.notNumber arg
              else f.leftover arg))
          else if low = 0 ∧ n < 0 then (n % UInt64.size, r)
          else if n < low then (low, complain (f.outOfRange arg))
          else if high < n then (high, complain (f.outOfRange arg))
          else (n, r)

/-- Take a number with a point from the arguments. -/
def takeQuantity (f : FormatStyle) (r : FormatResult) : Quantity × FormatResult :=
  match r.args with
  | [] => (.finite false 0 1, r)
  | arg :: args =>
      let r := { r with args }
      match arg.toList with
      | '"' :: c :: _ | '\'' :: c :: _ => (.finite false c.toNat 1, r)
      | _ =>
          let (q, rest) := readQuantity f.floats arg
          if rest = [] then (q, r)
          else (q, { r with complaints := r.complaints ++ [
            if rest = arg.toList then f.notNumber arg
            else f.leftover arg] })

/-- Read a number of the format, which a star takes from the arguments. -/
def readField (f : FormatStyle) (cs : List Char) (r : FormatResult) :
    Option Int × List Char × FormatResult :=
  match cs with
  | '*' :: rest =>
      let (n, r) := f.takeWhole (-0x80000000) 0x7fffffff r
      (some n, rest, r)
  | cs =>
      let digits := cs.takeWhile Char.isDigit
      (Text.digits? digits |>.map Int.ofNat, cs.drop digits.length, r)

def once (f : FormatStyle) : (fuel : Nat) → List Char → FormatResult → FormatResult
  | 0, _, r | _, [], r => r
  | fuel + 1, '\\' :: cs, r =>
      match f.escapes.read cs with
      | some (c, rest) => f.once fuel rest { r with output := c :: r.output }
      | none => f.once fuel cs { r with output := '\\' :: r.output }
  | fuel + 1, '%' :: '%' :: cs, r => f.once fuel cs { r with output := '%' :: r.output }
  | fuel + 1, '%' :: cs, r =>
      let flags := cs.takeWhile "#-+ 0".toList.contains
      let (width, rest, r) := f.readField (cs.drop flags.length) r
      let (precision, rest, r) := match rest with
        | '.' :: rest =>
            let (n, rest, r) := f.readField rest r
            (some (n.getD 0), rest, r)
        | rest => (none, rest, r)
      let conversion := (flags.foldl Conversion.withFlag {}).withWidth (width.getD 0)
      let conversion := { conversion with
        precision := (precision.filter (0 ≤ ·)).map Int.toNat }
      let print (s : String) (r : FormatResult) (rest : List Char) : FormatResult :=
        f.once fuel rest { r with output := s.toList.reverse ++ r.output }
      match rest with
      | [] => { r with fatal := some (f.noLetter ("%" ++ String.ofList cs)) }
      | letter :: rest =>
          match letter with
          | 's' => print (conversion.text (r.args.headD "")) { r with args := r.args.tail } rest
          | 'b' =>
              let s := r.args.headD ""
              let (cs, on) := f.escapes.unescape (s.length + 1) s.toList
              let r := { r with args := r.args.tail }
              let printed := conversion.text (String.ofList cs)
              if on then print printed r rest
              else { r with output := printed.toList.reverse ++ r.output, stopped := true }
          | 'c' =>
              let s := String.ofList ((r.args.headD "\x00").toList.take 1)
              print ({ conversion with precision := none }.text s) { r with args := r.args.tail }
                rest
          | 'd' | 'i' =>
              let (n, r) := f.takeWhole (-0x8000000000000000) 0x7fffffffffffffff r
              print (conversion.whole n) r rest
          | 'u' | 'o' | 'x' | 'X' =>
              let (n, r) := f.takeWhole 0 (UInt64.size - 1) r
              print (conversion.natural letter n.toNat) r rest
          | 'f' | 'F' | 'e' | 'E' | 'g' | 'G' =>
              let (q, r) := f.takeQuantity r
              print (conversion.quantity letter q) r rest
          | _ =>
              let directive := '%' :: cs.take (cs.length - rest.length)
              { r with fatal := some (f.badDirective (String.ofList directive)) }
  | fuel + 1, c :: cs, r => f.once fuel cs { r with output := c :: r.output }

/-- Print a format as often as it takes to use up the arguments. -/
def all (f : FormatStyle) (format : List Char) : (fuel : Nat) → FormatResult → FormatResult
  | 0, r => r
  | fuel + 1, r =>
      let after := f.once (format.length + 1) format r
      if after.stopped ∨ after.fatal.isSome ∨ after.args = [] ∨
          after.args.length = r.args.length then after
      else f.all format fuel after

def run (f : FormatStyle) (format : String) (args : List String) : FormatResult :=
  let r := f.all format.toList (args.length + 1) { args }
  { r with output := r.output.reverse }

end FormatStyle

end ReplyScript.Utility
