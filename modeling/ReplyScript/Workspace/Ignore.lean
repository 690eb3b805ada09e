import ReplyScript.Disk.Tree
import ReplyScript.Text.Lines
import ReplyScript.Text.Blank
import ReplyScript.Workspace.Glob

/-! # Ignored files

Which files a search passes over. Each directory may hold rules for what is below it, in files named
`.ignore` and, inside a Git repository, `.gitignore` and `.git/info/exclude`. Of the rules of one
file the last that matches decides, and inner directories decide before outer ones. Hidden files are
passed over unless a rule asks for them.
-/

namespace ReplyScript.Workspace

open Disk (Path Tree)

/-- A line of a file of rules. -/
structure Rule where
  machine : Pattern.Machine
  /-- Matching files are asked for, not ignored. -/
  wanted : Bool
  onlyDirectories : Bool

/-- Whether a text ends in another. -/
def endsWith (s ending : String) : Bool :=
  ending.toList.isSuffixOf s.toList

/-- Whether a text starts with another. -/
def startsWith (s start : String) : Bool :=
  start.toList.isPrefixOf s.toList

/-- A text without its last characters. -/
def dropLast (s : String) (n : Nat) : String :=
  String.ofList (s.toList.take (s.length - n))

/-- A glob without slashes matches at any depth, and one that ends in `/**` only what is below. -/
def anchor (anchored : Bool) (glob : String) : String :=
  let glob :=
    if !anchored && !('/' ∈ glob.toList) && glob ≠ "**" then "**/" ++ glob else glob
  if endsWith glob "/**" then glob ++ "/*" else glob

/-- Read a rule. Empty lines and comments are none, and neither are lines with a bad glob. -/
def Rule.ofLine? (line : String) : Option Rule := do
  let line := if endsWith line "\\ " then line else Text.trimEnd line
  if startsWith line "#" ∨ line = "" then none
  let escaped := startsWith line "\\!" || startsWith line "\\#"
  let wanted := !escaped && startsWith line "!"
  let line := if escaped || wanted then (line.drop 1).toString else line
  let anchored := startsWith line "/"
  let line := if anchored && !escaped then (line.drop 1).toString else line
  let onlyDirectories := endsWith line "/"
  let line := if onlyDirectories then
      let line := dropLast line 1
      if endsWith line "\\" then dropLast line 1 else line
    else line
  let machine ← Glob.machine? (anchor anchored line)
  return ⟨machine, wanted, onlyDirectories⟩

/-- The rules in a file, if there is one. Those from a line on that is no text do not count. -/
def rulesIn (t : Tree) (file : Path) : List Rule :=
  match t.read file with
  | .ok content =>
      let ls := (Text.lines (Text.decodeSound content.bytes).1).map Text.dropCarriageReturn
      let ls := match ls with
        | first :: rest =>
            String.ofList (first.toList.dropWhile (· == '\uFEFF')) :: rest
        | [] => []
      ls.filterMap Rule.ofLine?
  | .error _ => []

/-- What rules have to say about a file. -/
inductive Verdict where
  | ignored
  | wanted
  deriving Repr, DecidableEq, BEq, Inhabited

def judge (rules : List Rule) (path : Path) (isDirectory : Bool) : Option Verdict :=
  let cs := byteChars ("/".intercalate path)
  (rules.reverse.find? fun rule =>
    (!rule.onlyDirectories || isDirectory) && (rule.machine.matchHere 0 none cs).isSome).map
    fun rule => if rule.wanted then .wanted else .ignored

/-- The rules of one directory. -/
structure Level where
  /-- The directory. -/
  place : Path
  general : List Rule
  git : List Rule
  excluded : List Rule
  /-- Whether the directory is the top of a repository. -/
  isRepository : Bool

/-- The rules that a directory holds. -/
def Level.ofPlace (t : Tree) (place : Path) : Level where
  place := place
  general := rulesIn t (place ++ [".ignore"])
  git := rulesIn t (place ++ [".gitignore"])
  excluded := rulesIn t (place ++ [".git", "info", "exclude"])
  isRepository := t.reaches (place ++ [".git"])

/-- All places on the way to a place, the place itself first and the top last. -/
def placesUp (place : Path) : List Path :=
  (List.range (place.length + 1)).reverse.map place.take

/-- The first verdict of levels, innermost first, by the rules that `rules` selects. -/
def firstVerdict (levels : List Level) (rules : Level → List Rule) (place : Path)
    (isDirectory : Bool) : Option Verdict :=
  levels.findSome? fun level =>
    judge (rules level) (place.drop level.place.length) isDirectory

def upToRepository : List Level → List Level
  | [] => []
  | level :: levels => if level.isRepository then [level] else level :: upToRepository levels

/-- Whether a search passes over an entry, by the rules of the directories it lies in. -/
def passesOver (levels : List Level) (place : Path) (isDirectory : Bool) : Bool :=
  let inRepository := if levels.any (·.isRepository) then upToRepository levels else []
  let verdict := ((firstVerdict levels Level.general place isDirectory).or
    (firstVerdict inRepository Level.git place isDirectory)).or
    (firstVerdict inRepository Level.excluded place isDirectory)
  match verdict with
  | some .ignored => true
  | some .wanted => false
  | none => ((place.getLast?.getD "").toList.head? == some '.')

/-- Whether a search that starts at `root` reaches the file at a place below it. -/
def isSearched (t : Tree) (root place : Path) : Bool :=
  let ways := (placesUp place).filter fun p => root.length < p.length
  ways.all fun p => !passesOver ((placesUp p.dropLast).map (Level.ofPlace t)) p (p ≠ place)

end ReplyScript.Workspace
