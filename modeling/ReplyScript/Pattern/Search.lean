import ReplyScript.Pattern.Footprint
import ReplyScript.Pattern.Machine
import ReplyScript.Pattern.Meaning

/-! # Searching with patterns

The first match of a pattern in a text, and all matches one after the other. Matches do not overlap,
and an empty match never stands where another match ends.
-/

namespace ReplyScript.Pattern

/-- A match in a text: its first character, how many characters it has, and the marks of its
captures. -/
structure Match where
  start : Nat
  length : Nat
  marks : Marks
  deriving Inhabited

/-- Read a pattern and compile it, unless it would take too much room. -/
def Machine.ofPattern (flags : Flags) (pattern : String) : Except PatternError Machine := do
  let (node, names) ← Node.ofPattern flags pattern
  if node.tooBig then throw .tooBig
  return .ofNode node names

namespace Machine

/-- The first match in a text that starts at an offset after a character. -/
def findFrom (m : Machine) (offset : Nat) (before : Option Char) : List Char → Option Match
  | [] => (m.matchHere offset before []).map fun f => ⟨offset, f.length, f.marks⟩
  | c :: rest =>
      match m.matchHere offset before (c :: rest) with
      | some f => some ⟨offset, f.length, f.marks⟩
      | none => m.findFrom (offset + 1) (some c) rest

def find? (m : Machine) (text : List Char) : Option Match :=
  m.findFrom 0 none text

/-- All matches in a text that starts at an offset after a character. `skip` characters at its start
belong to the last match; `touching` tells whether that match ends where they end. -/
def matchesFrom (m : Machine) (offset : Nat) (before : Option Char) (skip : Nat)
    (touching : Bool) : List Char → List Match
  | [] =>
      match skip, touching, m.matchHere offset before [] with
      | 0, false, some f => [⟨offset, f.length, f.marks⟩]
      | _, _, _ => []
  | c :: rest =>
      match skip with
      | skip + 1 => m.matchesFrom (offset + 1) (some c) skip touching rest
      | 0 =>
        match m.matchHere offset before (c :: rest) with
        | none => m.matchesFrom (offset + 1) (some c) 0 false rest
        | some f =>
          match f.length, touching with
          | 0, true => m.matchesFrom (offset + 1) (some c) 0 false rest
          | 0, false =>
              ⟨offset, 0, f.marks⟩ :: m.matchesFrom (offset + 1) (some c) 0 false rest
          | length + 1, _ =>
              ⟨offset, length + 1, f.marks⟩ :: m.matchesFrom (offset + 1) (some c) length true rest

def findAll (m : Machine) (text : List Char) : List Match :=
  m.matchesFrom 0 none 0 false text

def capture? (m : Machine) (text : List Char) (found : Match) (name : String) : Option String := do
  let index ← m.names.lookup name
  let start ← found.marks.lookup (2 * index)
  let stop ← found.marks.lookup (2 * index + 1)
  return String.ofList ((text.drop start).take (stop - start))

end Machine

end ReplyScript.Pattern
