import ReplyScript.Pattern.Node
import Std.Data.HashMap

/-! # The room that patterns take

A pattern is refused when a machine for it would take too much room. The machine meant here takes
one byte at a time, and it is counted forward and backward: a state has a fixed size, and every
further way out of a state adds to it. Forward, the states of a set of characters are shared as far
as possible; backward, only what comes first is.
-/

namespace ReplyScript.Pattern

open Text (CharSet)

/-- The bytes of one character each lie in a range of their own. -/
abbrev ByteRanges := List (Nat × Nat)

/-- The last code points that take one, two and three bytes. -/
def lengthBounds : List Nat := [0x7F, 0x7FF, 0xFFFF]

def bytesOfCode (n : Nat) : List Nat :=
  if n ≤ 0x7F then [n]
  else if n ≤ 0x7FF then [0xC0 + n / 64, 0x80 + n % 64]
  else if n ≤ 0xFFFF then [0xE0 + n / 4096, 0x80 + n / 64 % 64, 0x80 + n % 64]
  else [0xF0 + n / 262144, 0x80 + n / 4096 % 64, 0x80 + n / 64 % 64, 0x80 + n % 64]

/-- Where a range has to be cut so that the bytes of its members make a product of ranges. -/
def cutOf (low high : Nat) : Option Nat :=
  match lengthBounds.find? fun bound => low ≤ bound && bound < high with
  | some bound => some bound
  | none =>
      if high ≤ 0x7F then none
      else [64, 4096, 262144].findSome? fun block =>
        if low / block = high / block then none
        else if low % block ≠ 0 then some (low / block * block + (block - 1))
        else if high % block ≠ block - 1 then some (high / block * block - 1)
        else none

/-- A range of code points as products of ranges of bytes. The fuel bounds the cuts one within
another. -/
def byteRangesOf : (fuel : Nat) → (low high : Nat) → List ByteRanges
  | 0, low, high => [(bytesOfCode low).zip (bytesOfCode high)]
  | fuel + 1, low, high =>
      match cutOf low high with
      | some cut => byteRangesOf fuel low cut ++ byteRangesOf fuel (cut + 1) high
      | none => [(bytesOfCode low).zip (bytesOfCode high)]

/-- A set of characters as products of ranges of bytes, in order. -/
def byteRanges (s : CharSet) : List ByteRanges :=
  (s.diff (.ofRanges [(0xD800, 0xDFFF)])).ranges.toList.flatMap fun (low, high) =>
    byteRangesOf 16 low high

/-- How much a state takes. -/
def stateRoom : Nat := 32

/-- How much a way out of a state takes that is for a range of bytes. -/
def rangeRoom : Nat := 8

/-- How much a way out of a state takes that is for no byte. -/
def branchRoom : Nat := 4

/-- How many ranges the products have, but for those at the start of a product that the one before
has as well. -/
def unsharedRanges : (before : ByteRanges) → List ByteRanges → Nat
  | _, [] => 0
  | before, r :: rest =>
      let shared := ((before.zip r).takeWhile fun (a, b) => a == b).length
      r.length - shared + unsharedRanges r rest

/-- The room of a set backward, where products share what they start with. -/
def backwardRoom (products : List ByteRanges) : Nat :=
  stateRoom * (2 + unsharedRanges [] products) + branchRoom * products.length

/-- States by their ways out: the range of bytes and the number of the next state. -/
abbrev States := Std.HashMap (List ((Nat × Nat) × Nat)) Nat

/-- Products that start with the same range, side by side. -/
def groupByFirst : List ByteRanges → List ((Nat × Nat) × List ByteRanges)
  | [] => []
  | [] :: rest => groupByFirst rest
  | (first :: others) :: rest =>
      match groupByFirst rest with
      | (next, group) :: groups =>
          if next = first then (first, others :: group) :: groups
          else (first, [others]) :: (next, group) :: groups
      | [] => [(first, [others])]

/-- The number of the state that takes some products; equal states are shared. State zero is where
all of them end. The fuel bounds the length of the products. -/
def stateOf : (fuel : Nat) → List ByteRanges → StateM States Nat
  | 0, _ => return 0
  | fuel + 1, products => do
      match groupByFirst products with
      | [] => return 0
      | groups =>
          let ways ← groups.mapM fun (range, rest) => return (range, ← stateOf fuel rest)
          match (← get)[ways]? with
          | some number => return number
          | none =>
              let number := (← get).size + 1
              modify (·.insert ways number)
              return number

/-- The room of a set forward, where equal states are shared. -/
def forwardRoom (products : List ByteRanges) : Nat :=
  let states := ((stateOf 4 products).run ∅).2
  states.fold (fun room ways _ => room + stateRoom + rangeRoom * ways.length) stateRoom

/-- The room of a set. A single character takes a state for every byte, and ASCII characters have
one state. -/
def setRoom (backward : Bool) (s : CharSet) : Nat :=
  match s.ranges.toList with
  | [] => stateRoom
  | [(low, high)] =>
      if low = high then stateRoom * (bytesOfCode low).length
      else if high < 128 then 2 * stateRoom + rangeRoom
      else if backward then backwardRoom (byteRanges s) else forwardRoom (byteRanges s)
  | ranges =>
      if s.isAscii then 2 * stateRoom + rangeRoom * ranges.length
      else if backward then backwardRoom (byteRanges s) else forwardRoom (byteRanges s)

namespace Node

def isChoice : Node → Bool
  | either .. => true
  | _ => false

/-- The room of a node. Captures count only forward, and a choice within a choice is part of it. -/
def room (backward : Bool) : Node → Nat
  | empty => 0
  | set s => setRoom backward s
  | assertion .. => stateRoom
  | capture _ body => body.room backward + (if backward then 0 else 2 * stateRoom)
  | sequence a b => a.room backward + b.room backward
  | either a b =>
      let both := a.room backward + b.room backward
      if b.isChoice then both + branchRoom else both + 2 * stateRoom + 2 * branchRoom
  | repetition body least most _ =>
      let once := body.room backward
      let fork := stateRoom + 2 * branchRoom
      match most with
      | none =>
          if least = 0 then
            if body.nullable then once + 2 * fork + stateRoom else once + fork
          else least * once + fork
      | some most =>
          if least = most then least * once
          else if least = 0 ∧ most = 1 then once + fork + stateRoom
          else max stateRoom (least * once) + stateRoom + (most - least) * (once + fork)

/-- How much room a machine may take. -/
def roomLimit : Nat := 10485760

/-- Whether a machine for the node takes too much room. -/
def tooBig (n : Node) : Bool :=
  let frame := 3 * stateRoom + rangeRoom + 2 * branchRoom
  roomLimit < n.room false + frame + 3 * stateRoom || roomLimit < n.room true + frame + stateRoom

end Node

end ReplyScript.Pattern
