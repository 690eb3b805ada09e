/-! # Tables of code points

Data about code points is kept as text: words with blanks between them, code points in hexadecimal.
A table of runs says where each run starts and what its members have in common; a table of ranges
lists the members of a set.
-/

namespace ReplyScript.Text

def hexValue (digits : List Char) : Nat :=
  digits.foldl (fun n c => 16 * n + (if c.isDigit then c.toNat - 48 else c.toUpper.toNat - 55)) 0

def tableWords (table : String) : List (List Char) :=
  (table.toList.splitOnP fun c => c == ' ' || c == '\n').filter (· ≠ [])

/-- A run of code points: its start, and what its members have in common. -/
structure Run (α : Type) where
  start : Nat
  value : α
  deriving Inhabited

def Run.ofWords (value : List Char → α) : List (List Char) → List (Run α)
  | start :: word :: rest => ⟨hexValue start, value word⟩ :: ofWords value rest
  | _ => []

/-- The last of the entries `low, …, high - 1` that starts at or before `n`, by halving. The fuel
bounds the number of halvings. -/
def lastStart (starts : Nat → Nat) (n : Nat) : (fuel low high : Nat) → Nat
  | 0, low, _ => low
  | fuel + 1, low, high =>
      if low + 1 < high then
        let mid := (low + high) / 2
        if starts mid ≤ n then lastStart starts n fuel mid high else lastStart starts n fuel low mid
      else low

/-- The run that a code point lies in. -/
def runAt? (runs : Array (Run α)) (n : Nat) : Option (Run α) :=
  runs[lastStart (fun i => (runs[i]?.map (·.start)).getD 0) n runs.size 0 runs.size]?

def lastCodePoint : Nat := 0x10FFFF

/-- The ranges of runs in order, each with its value. -/
def runRanges : List (Run α) → List ((Nat × Nat) × α)
  | run :: next :: rest => ((run.start, next.start - 1), run.value) :: runRanges (next :: rest)
  | [run] => [((run.start, lastCodePoint), run.value)]
  | [] => []

/-- Read a word of a table of ranges: a code point, two with a hyphen between them, or two and a
step behind a slash. -/
def rangesOfWord (word : List Char) : List (Nat × Nat) :=
  let first := hexValue (word.takeWhile (· ≠ '-'))
  match word.dropWhile (· ≠ '-') with
  | [] => [(first, first)]
  | _ :: rest =>
      let last := hexValue (rest.takeWhile (· ≠ '/'))
      match rest.dropWhile (· ≠ '/') with
      | [] => [(first, last)]
      | _ :: step =>
          let step := max 1 (hexValue step)
          (List.range ((last - first) / step + 1)).map fun i =>
            (first + step * i, first + step * i)

def rangesOfTable (table : String) : List (Nat × Nat) :=
  (tableWords table).flatMap rangesOfWord

end ReplyScript.Text
