import ReplyScript.Text.Blank

/-! # Decimal numerals

Whole numbers as people write them: decimal digits, possibly behind a plus sign, below the 64-bit
limit.
-/

namespace ReplyScript.Text

def digitValue (c : Char) : Nat :=
  c.toNat - 48

def digitsValue (digits : List Char) : Nat :=
  digits.foldl (fun n c => 10 * n + digitValue c) 0

/-- The value of characters that are all decimal digits, of which there is at least one. -/
def digits? (cs : List Char) : Option Nat :=
  if cs ≠ [] ∧ cs.all Char.isDigit then some (digitsValue cs) else none

/-- A numeral below `2 ^ 64`. -/
def numeral? (s : String) : Option Nat :=
  let digits := match s.toList with
    | '+' :: rest => rest
    | cs => cs
  (digits? digits).filter (· < UInt64.size)

end ReplyScript.Text
