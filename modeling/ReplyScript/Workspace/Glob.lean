import ReplyScript.Pattern.Machine
import ReplyScript.Text.Utf8

/-! # Globs

Wildcards for paths: `?` and `*` stand for anything but a slash, `**` between slashes for any number
of directories, brackets for one of several characters, and braces for alternatives. Globs are
read character by character and matched byte by byte.
-/

namespace ReplyScript.Workspace

open Pattern (Node)
open Text (CharSet)

/-- The bytes of a text, each as a character. -/
def byteChars (s : String) : List Char :=
  (Text.encode s).map fun b => Char.ofNat b.toNat

inductive Piece where
  | char (c : Char)
  /-- `?` -/
  | anyChar
  /-- `*`, within one name. -/
  | star
  /-- `**/` at the start: any directories, or none. -/
  | leadingDirectories
  /-- `/**/`: any directories in between, or none. -/
  | innerDirectories
  /-- `/**` at the end: everything below. -/
  | allBelow
  | bracket (negated : Bool) (ranges : List (Char × Char))
  | alternatives (branches : List (List Piece))
  deriving Inhabited

namespace Glob

/-- What is left of a glob, and the character before it. -/
structure Reader where
  rest : List Char
  previous : Option Char := none
  /-- Whether a bracket was not closed; then no later one opens a set. -/
  unclosed : Bool := false
  deriving Repr, DecidableEq, BEq, Inhabited

/-- Go on behind a character. -/
def Reader.past (r : Reader) (previous : Char) (rest : List Char) : Reader :=
  { r with rest, previous := some previous }

/-- What comes of reading a bracket. -/
inductive Bracket where
  | closed (ranges : List (Char × Char)) (rest : List Char)
  | unclosed
  /-- A range ends before it starts. -/
  | wrong
  deriving Repr, DecidableEq, BEq, Inhabited

/-- Read a bracket after its opening. The ranges are held latest first; `waits` tells whether a range
waits for its end. -/
def readRanges (first waits : Bool) (ranges : List (Char × Char)) : List Char → Bracket
  | [] => .unclosed
  | c :: cs =>
      if c = ']' ∧ !first then .closed (if waits then ('-', '-') :: ranges else ranges).reverse cs
      else match ranges, waits with
        | (low, _) :: before, true =>
            if c < low then .wrong else readRanges false false ((low, c) :: before) cs
        | _, _ =>
            if c = '-' ∧ !first then readRanges false true ranges cs
            else readRanges false false ((c, c) :: ranges) cs

/-- Read a bracket after its opening. One that is not closed stands for itself. -/
def readBracket (r : Reader) (rest : List Char) : Option (Piece × Reader) :=
  let (negated, inner) := match rest with
    | '!' :: inner | '^' :: inner => (true, inner)
    | inner => (false, inner)
  match readRanges true false [] inner with
  | .closed ranges rest => some (.bracket negated ranges, r.past ']' rest)
  | .unclosed => some (.char '[', { r.past '[' rest with unclosed := true })
  | .wrong => none

/-- Read two stars; `cs` is what follows them. The pieces before them are held latest first. Stars
that stand for directories swallow the slash behind them, and they take the place of the piece
before them, which is a slash or stands for directories already. -/
def readStars (nested : Bool) (r : Reader) (pieces : List Piece) (cs : List Char) :
    List Piece × Reader :=
  let plain := (.star :: .star :: pieces, r.past '*' cs)
  match pieces, cs with
  | [], [] => ([.leadingDirectories], r.past '*' [])
  | [], '/' :: rest => ([.leadingDirectories], r.past '/' rest)
  | [], _ => plain
  | last :: before, cs =>
      let free := r.previous == some '/'
        || (nested && (r.previous == some ',' || r.previous == some '\x7b'))
      let replaced (piece : Piece) : List Piece :=
        match last with
        | .leadingDirectories | .allBelow => last :: before
        | _ => piece :: before
      if !free then plain
      else match cs with
        | [] => (replaced .allBelow, r.past '*' [])
        | '/' :: rest => (replaced .innerDirectories, r.past '/' rest)
        | c :: _ =>
            if nested && (c == ',' || c == '\x7d') then (replaced .allBelow, r.past '*' cs)
            else plain

/-- Read pieces up to the end, or up to the closing brace of alternatives. `finished` holds the
alternatives before the current one, and `pieces` the pieces of that, latest first. The fuel bounds
the steps. -/
def readPieces : (fuel : Nat) → (nested : Bool) → (finished : List (List Piece)) → List Piece →
    Reader → Option (List (List Piece) × Reader)
  | 0, _, _, _, _ => none
  | fuel + 1, nested, finished, pieces, r =>
      match r.rest with
      | [] => if nested then none else some ([pieces.reverse], r)
      | '?' :: rest => readPieces fuel nested finished (.anyChar :: pieces) (r.past '?' rest)
      | '*' :: '*' :: rest =>
          let (pieces, r) := readStars nested r pieces rest
          readPieces fuel nested finished pieces r
      | '*' :: rest => readPieces fuel nested finished (.star :: pieces) (r.past '*' rest)
      | '\x7b' :: rest => do
          let (branches, r) ← readPieces fuel true [] [] (r.past '\x7b' rest)
          readPieces fuel nested finished (.alternatives branches :: pieces) r
      | '\x7d' :: rest =>
          if nested then some ((pieces.reverse :: finished).reverse, r.past '\x7d' rest) else none
      | '\\' :: c :: rest => readPieces fuel nested finished (.char c :: pieces) (r.past c rest)
      | '\\' :: [] => none
      | c :: rest =>
          if c = '[' ∧ !r.unclosed then do
            let (piece, r) ← readBracket r rest
            readPieces fuel nested finished (piece :: pieces) r
          else if c = ',' ∧ nested then
            readPieces fuel nested (pieces.reverse :: finished) [] (r.past ',' rest)
          else readPieces fuel nested finished (.char c :: pieces) (r.past c rest)

def pieces? (glob : String) : Option (List Piece) := do
  let cs := glob.toList
  let (branches, _) ← readPieces (cs.length + 1) false [] [] { rest := cs }
  branches.head?

/-- Any number of the members of a set. -/
def anyOf (s : CharSet) : Node :=
  .repetition (.set s) 0 none true

/-- The separator of path parts. -/
def slash : Node :=
  .set (.single '/')

/-- Anything but the separator of path parts. -/
def inName : CharSet :=
  (CharSet.single '/').complement

def chain (nodes : List Node) : Node :=
  nodes.foldr .sequence .empty

/-- The bytes of a range between two characters: their own, and those between the last of the one and
the first of the other. -/
def rangeBytes (low high : Char) : CharSet :=
  let lowBytes := byteChars (String.singleton low)
  let highBytes := byteChars (String.singleton high)
  let own := (lowBytes ++ highBytes).map fun c => (c.toNat, c.toNat)
  let between := if low = high then []
    else match lowBytes.getLast?, highBytes.head? with
      | some a, some b => [(a.toNat, b.toNat)]
      | _, _ => []
  .ofRanges (own ++ between)

mutual

/-- The nodes that match a piece one after the other. Alternatives that are empty do not count. -/
def nodesOfPiece : Piece → List Node
  | .char c => (byteChars (String.singleton c)).map fun b => .set (.single b)
  | .anyChar => [.set inName]
  | .star => [anyOf inName]
  | .leadingDirectories =>
      [.either (.repetition slash 0 (some 1) true) (.sequence (anyOf .all) slash)]
  | .innerDirectories => [.either slash (chain [slash, anyOf .all, slash])]
  | .allBelow => [slash, anyOf .all]
  | .bracket negated ranges =>
      let set := CharSet.unions (ranges.map fun (low, high) => rangeBytes low high)
      [.set (if negated then set.complement else set)]
  | .alternatives branches =>
      match (nodesOfBranches branches).reverse with
      | [] => []
      | last :: before => [before.foldl (fun later n => .either n later) last]

def nodesOfPieces : List Piece → List Node
  | [] => []
  | piece :: pieces => nodesOfPiece piece ++ nodesOfPieces pieces

/-- The nodes of the alternatives that are not empty. -/
def nodesOfBranches : List (List Piece) → List Node
  | [] => []
  | branch :: branches =>
      match nodesOfPieces branch with
      | [] => nodesOfBranches branches
      | nodes => chain nodes :: nodesOfBranches branches

end

/-- The machine of a glob that must match a whole path. Any directories alone match everything. -/
def machine? (glob : String) : Option Pattern.Machine :=
  (pieces? glob).map fun pieces =>
    let node := match pieces with
      | [.leadingDirectories] => anyOf .all
      | pieces => chain (nodesOfPieces pieces)
    .ofNode (.sequence node (.assertion .textEnd .empty)) []

end Glob

end ReplyScript.Workspace
