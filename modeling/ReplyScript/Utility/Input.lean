import ReplyScript.Job.Options
import ReplyScript.Text.Numeral

/-! # Input of utilities

Utilities work on the files that are named, or on the input if none is. A file that cannot be read
is complained about, and the others still count.
-/

namespace ReplyScript.Utility

/-- The lines of a text; what follows the last newline is a line if it is not empty. -/
def linesOf (s : String) : List String :=
  let pieces := s.toList.splitOn '\n'
  (if pieces.getLast? = some [] then pieces.dropLast else pieces).map String.ofList

def ofLines (ls : List String) : String :=
  String.join (ls.map (· ++ "\n"))

/-- The lines of a text with their newlines. -/
def fullLines (s : String) : List String :=
  let ls := linesOf s
  let full := ls.map (· ++ "\n")
  if s.toList.getLast? = some '\n' then full else full.dropLast ++ ls.getLast?.toList

/-- The names of inputs; without any the input itself counts. -/
def namesOr (names : List String) : List String :=
  if names.isEmpty then ["-"] else names

/-- Do something with each input that can be read. The result is 1 if one could not be read. -/
def forInputs (complaint : String → String → String) (names : List String)
    (use : String → String → JobM Unit) : JobM Nat :=
  (namesOr names).foldlM (fun status name => do
    match ← JobM.inputOf name with
    | .ok text =>
        use name text
        return status
    | .error reason => JobM.fail (complaint name reason)) 0

def joinedInputs (complaint : String → String → String) (names : List String) :
    JobM (Nat × String) :=
  (namesOr names).foldlM (fun (status, text) name => do
    match ← JobM.inputOf name with
    | .ok more => return (status, text ++ more)
    | .error reason => return (← JobM.fail (complaint name reason), text)) (0, "")

/-- The usual complaint about an input. -/
def plainly (utility name reason : String) : String :=
  utility ++ ": " ++ Job.shown name ++ ": " ++ reason

/-- A filter: what becomes of each input in turn. -/
def filter (utility : String) (names : List String) (f : String → String) : JobM Nat :=
  forInputs (plainly utility) names fun _ text => JobM.say (f text)

/-- The multiples that letters behind a number stand for. -/
def multiples : List (String × Nat) :=
  [("b", 512), ("kB", 1000), ("k", 1024), ("K", 1024), ("KiB", 1024), ("MB", 1000000),
   ("M", 1048576), ("m", 1048576), ("MiB", 1048576), ("G", 1073741824), ("GB", 1000000000)]

/-- A number with a multiple. -/
def count? (s : String) : Option Nat := do
  let cs := s.toList
  let n ← Text.digits? (cs.takeWhile Char.isDigit)
  match cs.dropWhile Char.isDigit with
  | [] => return n
  | unit => return n * (← multiples.lookup (String.ofList unit))

/-- A text with blanks in front of it up to a width. -/
def padLeft (width : Nat) (s : String) : String :=
  String.ofList (List.replicate (width - s.length) ' ') ++ s

/-- A text with blanks behind it up to a width. -/
def padRight (width : Nat) (s : String) : String :=
  s ++ String.ofList (List.replicate (width - s.length) ' ')

end ReplyScript.Utility
