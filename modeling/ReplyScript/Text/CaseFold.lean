import ReplyScript.Text.CharSet
import ReplyScript.Text.CharacterData
import ReplyScript.Text.Numeral

/-! # Case folding

Two characters are the same up to case when they have the same simple case folding.
`CharSet.foldCase` closes a set under being the same.
-/

namespace ReplyScript.Text

/-- A run of characters that fold to characters at a common distance. -/
structure CaseFoldRun where
  first : Nat
  last : Nat
  step : Nat
  distance : Int
  deriving Inhabited

/-- A whole number in decimal, perhaps negative. -/
def decimalValue : List Char → Int
  | '-' :: digits => -(digitsValue digits : Int)
  | digits => digitsValue digits

def CaseFoldRun.ofWords : List (List Char) → List CaseFoldRun
  | first :: last :: step :: distance :: rest =>
      ⟨hexValue first, hexValue last, digitsValue step, decimalValue distance⟩ :: ofWords rest
  | _ => []

def caseFoldTable : List CaseFoldRun :=
  CaseFoldRun.ofWords (tableWords caseFoldRuns)

def CaseFoldRun.pairs (run : CaseFoldRun) : List (Nat × Nat) :=
  (List.range ((run.last - run.first) / run.step + 1)).map fun i =>
    let n := run.first + run.step * i
    (n, (n + run.distance).toNat)

/-- All code points that fold to another one, each with its folding. -/
def casePairs : List (Nat × Nat) :=
  caseFoldTable.flatMap CaseFoldRun.pairs

def foldCase (n : Nat) : Nat :=
  (casePairs.lookup n).getD n

/-- The set with all characters that are the same as a member up to case. -/
def CharSet.foldCase (s : CharSet) : CharSet :=
  let foldings := CharSet.ofRanges (casePairs.filterMap fun (a, b) =>
    if s.containsCode a || s.containsCode b then some (b, b) else none)
  let sources := CharSet.ofRanges (casePairs.filterMap fun (a, b) =>
    if foldings.containsCode b then some (a, a) else none)
  .unions [s, foldings, sources]

end ReplyScript.Text
