import ReplyScript.Utility.Expression
import ReplyScript.Utility.Order
import ReplyScript.Pattern.Meaning

/-! # Searching lines

`grep` selects the lines of files that match any of some patterns.
-/

namespace ReplyScript.Utility

open Pattern (Machine Node)

/-- How patterns are written. -/
inductive Spelling where
  | basic
  | extended
  /-- The pattern stands for itself. -/
  | fixed
  /-- With preferences instead of the longest match. -/
  | preferring
  deriving Repr, DecidableEq, BEq, Inhabited

structure Search where
  finder : Finder
  /-- Matches are whole words. -/
  words : Bool
  invert : Bool
  onlyMatches : Bool
  numbers : Bool
  offsets : Bool
  count : Bool
  /-- Only the names of files that have a match, or that have none. -/
  names : Option Bool
  quiet : Bool
  limit : Option Nat
  before : Nat
  after : Nat
  /-- Whether lines are printed with the names of their files. -/
  prefixed : Bool

def Expression.ofText (d : Dialect) (s : String) : Expression :=
  s.toList.foldr (fun c e => .sequence (d.ofChar c) e) .empty

def Expression.bounded (words lines : Bool) (e : Expression) : Expression :=
  let between (a b : Pattern.Assertion) (e : Expression) : Expression :=
    .sequence (.place a) (.sequence e (.place b))
  if lines then between .textStart .textEnd e
  else if words then between .wordStartHalf .wordEndHalf e
  else e

/-- Read the patterns of a search, any of which may match. -/
def readPatterns (n : Spelling) (ignoresCase words lines : Bool) (patterns : List String) :
    Except String Finder := do
  let d : Dialect := { extended := n = .extended, ignoresCase }
  match n with
  | .preferring =>
      let all := (if ignoresCase then "(?i)" else "")
        ++ "|".intercalate (patterns.map fun p => "(?:" ++ p ++ ")")
      let all := if lines then "^(?:" ++ all ++ ")$" else if words then "\\b(?:" ++ all ++ ")\\b"
        else all
      match Node.ofPattern {} all with
      | .ok found =>
          return { expression := .empty, machine := some (Machine.ofNode found.1 []), groups := 0 }
      | .error _ => throw "invalid pattern"
  | n =>
      let expressions ← patterns.mapM fun p =>
        if n = .fixed then return Expression.ofText d p
        else match Expression.read d p with
          | .ok e => return e
          | .error m => throw m.message
      let expressions := expressions.map (Expression.bounded words lines)
      match expressions with
      | [] => return Finder.ofExpression (.set .empty)
      | e :: es => return Finder.ofExpression (es.foldl .either e)

/-- The matches in a line that take something, one behind the other. -/
def Finder.findAll (f : Finder) (line : List Char) : (fuel : Nat) → (offset : Nat) →
    List Finder.Hit
  | 0, _ => []
  | fuel + 1, offset =>
      match f.find line offset with
      | none => []
      | some hit =>
          if hit.stop = hit.start then
            if hit.start < line.length then f.findAll line fuel (hit.start + 1) else []
          else hit :: f.findAll line fuel hit.stop

/-- A line of a file: its number, the bytes before it, and whether it is selected. -/
structure SearchedLine where
  number : Nat
  offset : Nat
  text : String
  selected : Bool

/-- The lines of a text with what a search says of them. The limit counts selected lines. -/
def Search.lines (s : Search) : (number offset : Nat) → (limit : Option Nat) → List String →
    List SearchedLine
  | _, _, _, [] => []
  | number, offset, limit, l :: ls =>
      let found := limit ≠ some 0 ∧ (s.finder.find l.toList).isSome ≠ s.invert
      let line : SearchedLine := ⟨number, offset, l, found⟩
      let rest := s.lines (number + 1) (offset + l.length + 1)
        (if found then limit.map (· - 1) else limit) ls
      line :: rest

/-- How a line is introduced; `mark` is a colon for selected lines and a hyphen for others. -/
def Search.lead (s : Search) (name mark : String) (number offset : Nat) : String :=
  (if s.prefixed then name ++ mark else "")
    ++ (if s.numbers then toString number ++ mark else "")
    ++ (if s.offsets then toString offset ++ mark else "")

/-- The printed lines: the selected ones with those around them. `last` is the number of the last
line printed. -/
def Search.print (s : Search) (name : String) (all : List SearchedLine) : String :=
  let selected := (all.filter (·.selected)).map (·.number)
  let isNear (n : Nat) : Bool := selected.any fun m => m ≤ n + s.before && n ≤ m + s.after
  let lastSelected := selected.getLast?.getD 0
  let limited := s.limit.isSome
  let shown := if s.before = 0 ∧ s.after = 0 then all.filter (·.selected)
    else all.filter fun l => isNear l.number && (!limited || l.number ≤ lastSelected + s.after)
  let hasContext := 0 < s.before ∨ 0 < s.after
  let step (state : String × Option Nat) (l : SearchedLine) : String × Option Nat :=
    let (text, last) := state
    let gap := hasContext ∧ (last.any fun n => n + 1 < l.number)
    (text ++ (if gap then "--\n" else "")
      ++ s.lead name (if l.selected then ":" else "-") l.number l.offset ++ l.text ++ "\n",
      some l.number)
  (shown.foldl step ("", none)).1

def Search.printMatches (s : Search) (name : String) (all : List SearchedLine) : String :=
  String.join <| (all.filter (·.selected)).flatMap fun l =>
    let cs := l.text.toList
    (s.finder.findAll cs (cs.length + 1) 0).map fun hit =>
      s.lead name ":" l.number (l.offset + hit.start)
        ++ String.ofList ((cs.drop hit.start).take (hit.stop - hit.start)) ++ "\n"

/-- What is printed for a text, and whether a line was selected. -/
def Search.run (s : Search) (name text : String) : String × Bool :=
  let all := s.lines 1 0 s.limit (linesOf text)
  let count := (all.filter (·.selected)).length
  let found := 0 < count
  let printed :=
    if s.quiet then ""
    else match s.names with
      | some wanted => if found = wanted then name ++ "\n" else ""
      | none =>
          if s.count then (if s.prefixed then name ++ ":" else "") ++ toString count ++ "\n"
          else if text.toList.contains '\x00' then
            if found then "grep: " ++ name ++ ": binary file matches\n" else ""
          else if s.onlyMatches then if s.invert then "" else s.printMatches name all
          else s.print name all
  (printed, found)

def filesBelow (j : Job) : (fuel : Nat) → String → List String
  | 0, _ => []
  | fuel + 1, name =>
      match j.namesIn name with
      | .error _ => []
      | .ok entries =>
          entries.flatMap fun (n, e) =>
            let inner := if name.toList.getLast? = some '/' then name ++ n else name ++ "/" ++ n
            match e with
            | .directory => filesBelow j fuel inner
            | .file _ => [inner]
            | .link _ => []

def grepOptions : List KnownOption :=
  [⟨'E', "extended-regexp", .nothing⟩, ⟨'F', "fixed-strings", .nothing⟩,
   ⟨'G', "basic-regexp", .nothing⟩, ⟨'P', "perl-regexp", .nothing⟩, ⟨'e', "regexp", .value⟩,
   ⟨'f', "file", .value⟩, ⟨'i', "ignore-case", .nothing⟩, ⟨'y', "", .nothing⟩,
   ⟨'v', "invert-match", .nothing⟩, ⟨'w', "word-regexp", .nothing⟩,
   ⟨'x', "line-regexp", .nothing⟩, ⟨'c', "count", .nothing⟩,
   ⟨'l', "files-with-matches", .nothing⟩, ⟨'L', "files-without-match", .nothing⟩,
   ⟨'q', "quiet", .nothing⟩, ⟨'!', "silent", .nothing⟩, ⟨'s', "no-messages", .nothing⟩,
   ⟨'n', "line-number", .nothing⟩, ⟨'b', "byte-offset", .nothing⟩,
   ⟨'H', "with-filename", .nothing⟩, ⟨'h', "no-filename", .nothing⟩,
   ⟨'o', "only-matching", .nothing⟩, ⟨'r', "recursive", .nothing⟩, ⟨'R', "", .nothing⟩,
   ⟨'m', "max-count", .value⟩, ⟨'A', "after-context", .value⟩,
   ⟨'B', "before-context", .value⟩, ⟨'C', "context", .value⟩, ⟨'a', "text", .nothing⟩,
   ⟨'%', "color", .perhaps⟩, ⟨'+', "include", .value⟩, ⟨'-', "exclude", .value⟩]

/-- What is said of a call of `grep` that cannot be understood. -/
def grepUsage : JobM Nat := do
  JobM.complain "Usage: grep [OPTION]... PATTERNS [FILE]..."
  JobM.fail "Try 'grep --help' for more information." 2

/-- Search with a way to write patterns that options may change. -/
def grepWith (usual : Spelling) (args : List String) : JobM Nat := do
  match readArguments grepOptions false args with
  | .error problem => do
      JobM.complain ("grep: " ++ problem.message)
      grepUsage
  | .ok a =>
      let n := match a.last? ['E', 'F', 'G', 'P'] with
        | some 'E' => Spelling.extended
        | some 'F' => .fixed
        | some 'P' => .preferring
        | some _ => .basic
        | none => usual
      let fromFiles ← (a.values 'f').mapM fun name => do
        match ← JobM.inputOf name with
        | .ok text => return linesOf text
        | .error _ => return []
      let given := (a.values 'e').flatMap (fun s => (s.toList.splitOn '\n').map String.ofList)
        ++ fromFiles.flatten
      let takesFirst := !a.has 'e' && !a.has 'f'
      if takesFirst ∧ a.operands = [] then return ← grepUsage
      let patterns := if takesFirst then
        ((a.operands.headD "").toList.splitOn '\n').map String.ofList else given
      let names := if takesFirst then a.operands.tail else a.operands
      match readPatterns n (a.has 'i' || a.has 'y') (a.has 'w') (a.has 'x') patterns with
      | .error message => JobM.fail ("grep: " ++ message) 2
      | .ok finder =>
          let recursive := a.has 'r' || a.has 'R'
          let j ← get
          let all := if names.isEmpty then [if recursive then "." else "-"] else names
          let files := if recursive then all.flatMap fun name =>
              if j.isDirectory name then
                (filesBelow j 100 name).map fun f =>
                  if names.isEmpty then String.ofList (f.toList.drop 2) else f
              else [name]
            else all
          let natural (key : Char) : Option Nat := (a.value? key).bind Text.numeral?
          let around := (natural 'C').getD 0
          let s : Search := {
            finder, words := a.has 'w', invert := a.has 'v', onlyMatches := a.has 'o'
            numbers := a.has 'n', offsets := a.has 'b', count := a.has 'c'
            names := if a.has 'l' then some true else if a.has 'L' then some false else none
            quiet := a.has 'q' || a.has '!', limit := natural 'm'
            before := (natural 'B').getD around, after := (natural 'A').getD around
            prefixed := match a.last? ['H', 'h'] with
              | some key => key = 'H'
              | none => 1 < all.length || (recursive && all.any j.isDirectory) }
          let (found, failed) ← files.foldlM (fun (found, failed) name => do
            if s.quiet ∧ found then return (found, failed)
            match ← JobM.inputOf name with
            | .ok text =>
                let (printed, here) := s.run (if name = "-" then "(standard input)" else name) text
                JobM.say printed
                return (found || (if s.names = some false then !here else here), failed)
            | .error reason =>
                if !a.has 's' then JobM.complain ("grep: " ++ name ++ ": " ++ reason)
                return (found, true)) (false, false)
          return if failed ∧ !(s.quiet ∧ found) then 2 else if found then 0 else 1

/-- `grep`: prints the lines that match a pattern. -/
def grep : Utility := fun _ => grepWith .basic

/-- `egrep`: `grep` with extended patterns. -/
def egrep : Utility := fun _ => grepWith .extended

/-- `fgrep`: `grep` with texts instead of patterns. -/
def fgrep : Utility := fun _ => grepWith .fixed

end ReplyScript.Utility
