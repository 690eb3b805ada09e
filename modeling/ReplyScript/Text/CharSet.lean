import ReplyScript.Text.Table

/-! # Sets of characters

A set of code points is a list of ranges in increasing order with gaps between them. `contains`
looks a character up by halving.
-/

namespace ReplyScript.Text

/-- A set of code points, as ranges in increasing order with gaps between them. -/
structure CharSet where
  ranges : Array (Nat × Nat)
  deriving Repr, DecidableEq, BEq, Inhabited

namespace CharSet

/-- Put a range into the order of starts. -/
def insertRange (range : Nat × Nat) : List (Nat × Nat) → List (Nat × Nat)
  | [] => [range]
  | next :: rest =>
      if range.1 ≤ next.1 then range :: next :: rest else next :: insertRange range rest

/-- Join ranges that overlap or touch; they come in the order of their starts, after a first one. -/
def joinRanges (first : Nat × Nat) : List (Nat × Nat) → List (Nat × Nat)
  | [] => [first]
  | next :: rest =>
      if next.1 ≤ first.2 + 1 then joinRanges (first.1, max first.2 next.2) rest
      else first :: joinRanges next rest

/-- The set of the code points in some ranges. -/
def ofRanges (ranges : List (Nat × Nat)) : CharSet :=
  match ranges.foldr insertRange [] with
  | [] => ⟨#[]⟩
  | first :: rest => ⟨(joinRanges first rest).toArray⟩

def ofTable (table : String) : CharSet :=
  ofRanges (rangesOfTable table)

/-- The members of the runs whose value satisfies a condition. -/
def ofRuns (p : α → Bool) (runs : List (Run α)) : CharSet :=
  ofRanges ((runRanges runs).filterMap fun (range, value) => if p value then some range else none)

def empty : CharSet := ⟨#[]⟩

def all : CharSet := ⟨#[(0, lastCodePoint)]⟩

/-- The characters between two, both included. -/
def range (low high : Char) : CharSet :=
  ⟨#[(low.toNat, high.toNat)]⟩

def single (c : Char) : CharSet :=
  range c c

def ofChars (s : String) : CharSet :=
  ofRanges (s.toList.map fun c => (c.toNat, c.toNat))

/-- Whether a code point is a member. -/
def containsCode (s : CharSet) (n : Nat) : Bool :=
  let start (i : Nat) : Nat := (s.ranges[i]?.map (·.1)).getD 0
  match s.ranges[lastStart start n s.ranges.size 0 s.ranges.size]? with
  | some (low, high) => low ≤ n && n ≤ high
  | none => false

/-- Whether a character is a member. -/
def contains (s : CharSet) (c : Char) : Bool :=
  s.containsCode c.toNat

def union (a b : CharSet) : CharSet :=
  ofRanges (a.ranges.toList ++ b.ranges.toList)

def unions (sets : List CharSet) : CharSet :=
  ofRanges (sets.flatMap (·.ranges.toList))

def gapsFrom (start : Nat) : List (Nat × Nat) → List (Nat × Nat)
  | [] => if start ≤ lastCodePoint then [(start, lastCodePoint)] else []
  | (low, high) :: rest =>
      if start < low then (start, low - 1) :: gapsFrom (high + 1) rest else gapsFrom (high + 1) rest

/-- The code points outside the set. -/
def complement (a : CharSet) : CharSet :=
  ⟨(gapsFrom 0 a.ranges.toList).toArray⟩

def inter (a b : CharSet) : CharSet :=
  (a.complement.union b.complement).complement

/-- The members of the first set that are not in the second one. -/
def diff (a b : CharSet) : CharSet :=
  (a.complement.union b).complement

def symmetricDiff (a b : CharSet) : CharSet :=
  (a.diff b).union (b.diff a)

def isAscii (a : CharSet) : Bool :=
  match a.ranges.back? with
  | some (_, high) => high < 128
  | none => true

end CharSet

end ReplyScript.Text
