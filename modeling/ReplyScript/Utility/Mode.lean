import ReplyScript.Disk.Tree
import ReplyScript.Text.Numeral

/-! # Permissions

Permissions are written as an octal number, or as clauses that say whose permissions to set, to
grant or to take away.
-/

namespace ReplyScript.Utility

def octal? (s : String) : Option Nat :=
  if s ≠ "" ∧ s.toList.all fun c => '0' ≤ c ∧ c ≤ '7' then
    some (s.toList.foldl (fun n c => 8 * n + (c.toNat - '0'.toNat)) 0)
  else none

/-- The bits of those whom a letter stands for. -/
def whoseBits : Char → Option Nat
  | 'u' => some 0o4700
  | 'g' => some 0o2070
  | 'o' => some 0o1007
  | 'a' => some 0o7777
  | _ => none

def grantedBits (isDirectory : Bool) (mode : Nat) : Char → Option Nat
  | 'r' => some 0o444
  | 'w' => some 0o222
  | 'x' => some 0o111
  | 'X' => some (if isDirectory || mode &&& 0o111 != 0 then 0o111 else 0)
  | 's' => some 0o6000
  | 't' => some 0o1000
  | 'u' => some ((mode / 64 % 8) * 0o111)
  | 'g' => some ((mode / 8 % 8) * 0o111)
  | 'o' => some (mode % 8 * 0o111)
  | _ => none

/-- The changes of a clause behind those that it is about. -/
def applyChanges (isDirectory : Bool) (whose : Nat) : (fuel : Nat) → List Char → Nat → Option Nat
  | 0, _, _ => none
  | _ + 1, [], mode => some mode
  | fuel + 1, sign :: cs, mode => do
      let letters := cs.takeWhile fun c => (grantedBits isDirectory mode c).isSome
      let bits := letters.foldl (fun n c => n ||| (grantedBits isDirectory mode c).getD 0) 0
      let bits := bits &&& whose
      let cleared (mask : Nat) : Nat := mode - (mode &&& mask)
      let mode ← match sign with
        | '+' => some (mode ||| bits)
        | '-' => some (cleared bits)
        | '=' => some (cleared (whose &&& 0o777) ||| bits)
        | _ => none
      applyChanges isDirectory whose fuel (cs.drop letters.length) mode

/-- The permissions after a written change; `none` if it is badly written. Clauses that are about
nobody are about all but for the bits of a mask. -/
def changedMode? (written : String) (isDirectory : Bool) (mask mode : Nat) : Option Nat :=
  match octal? written with
  | some n => if n ≤ 0o7777 then some n else none
  | none =>
      (written.toList.splitOn ',').foldlM (fun mode clause => do
        let who := clause.takeWhile fun c => (whoseBits c).isSome
        let whose := if who = [] then 0o7777 - (0o7777 &&& mask)
          else who.foldl (fun n c => n ||| (whoseBits c).getD 0) 0
        let changes := clause.drop who.length
        if changes = [] then none
        applyChanges isDirectory whose (changes.length + 1) changes mode) mode

/-- Permissions as nine letters and hyphens. -/
def modeLetters (mode : Nat) : String :=
  let three (n : Nat) (special : Bool) (mark : Char) : List Char :=
    [if n / 4 % 2 = 1 then 'r' else '-', if n / 2 % 2 = 1 then 'w' else '-',
      if special then (if n % 2 = 1 then mark else mark.toUpper)
      else if n % 2 = 1 then 'x' else '-']
  String.ofList (three (mode / 64 % 8) (mode / 0o4000 % 2 == 1) 's'
    ++ three (mode / 8 % 8) (mode / 0o2000 % 2 == 1) 's'
    ++ three (mode % 8) (mode / 0o1000 % 2 == 1) 't')

def octal (n : Nat) : String :=
  String.ofList (Nat.toDigits 8 n)

end ReplyScript.Utility
