import ReplyScript.Shell.State
import ReplyScript.Utility.Files
import ReplyScript.Utility.Wildcard

/-! # Fields

A word that is expanded is a row of letters, which is split into fields where an expansion left
separators. A field with wildcards stands for the files whose names fit.
-/

namespace ReplyScript.Shell

open Utility (Wildcard)

/-- A letter of a word that is being expanded. -/
inductive Letter where
  /-- A character; a literal one is no wildcard, and fields may end at one that splits. -/
  | char (c : Char) (literal splits : Bool)
  /-- A place where something is quoted, perhaps nothing. -/
  | quote
  /-- The end of one of the arguments that are being listed; empty ones do not count. -/
  | gap
  /-- The end of one of the arguments that are being listed. -/
  | next
  deriving Repr, DecidableEq, BEq, Inhabited

/-- The letters of a text that comes from an expansion. -/
def lettersOf (s : String) (quoted splits : Bool) : List Letter :=
  (if quoted then [.quote] else []) ++ s.toList.map fun c => .char c quoted (!quoted && splits)

def textOf (ls : List Letter) : String :=
  String.ofList <| ls.filterMap fun
    | .char c _ _ => some c
    | .quote => none
    | .gap | .next => some ' '

/-- Letters as the letters of a pattern. -/
def patternOf (ls : List Letter) : List Wildcard.Letter :=
  ls.filterMap fun
    | .char c literal _ => some (c, !literal)
    | _ => none

/-- Letters that split fields where they come from a default. -/
def withSplits (ls : List Letter) : List Letter :=
  ls.map fun
    | .char c false _ => .char c false true
    | l => l

/-- What has been split of a row of letters. -/
structure Splitting where
  /-- The finished fields, latest first. -/
  fields : List (List Wildcard.Letter) := []
  /-- The field that goes on, backwards. -/
  current : List Wildcard.Letter := []
  /-- Whether that field has begun. -/
  started : Bool := false
  /-- Whether the last field ended at a blank. -/
  afterBlank : Bool := false

namespace Splitting

def finish (s : Splitting) (afterBlank : Bool) : Splitting :=
  { fields := s.current.reverse :: s.fields, afterBlank }

/-- Take a letter. Blanks between fields do not count, and other separators end a field each. -/
def step (separators : List Char) (s : Splitting) : Letter → Splitting
  | .quote => { s with started := true }
  | .next => s.finish false
  | .gap => if s.started then s.finish true else s
  | .char c literal splits =>
      if splits ∧ separators.contains c then
        if c = ' ' ∨ c = '\t' ∨ c = '\n' then if s.started then s.finish true else s
        else if !s.started ∧ s.afterBlank then { s with afterBlank := false }
        else s.finish false
      else { s with current := (c, !literal) :: s.current, started := true }

def split (separators : String) (ls : List Letter) : List (List Wildcard.Letter) :=
  let s := ls.foldl (step separators.toList) {}
  (if s.started then s.finish false else s).fields.reverse

end Splitting

def fieldText (f : List Wildcard.Letter) : String :=
  String.ofList (f.map (·.1))

def hasWildcards (f : List Wildcard.Letter) : Bool :=
  f.any fun (c, active) => active && (c = '*' || c = '?' || c = '[')

/-- The names that start with a text and go on as the parts between slashes say. -/
def matchingNames (j : Job) : (start : String) → List (List Wildcard.Letter) → List String
  | start, [] => if (Utility.found? j start).isOk then [start] else []
  | start, part :: parts =>
      let goOn (name : String) : List String :=
        matchingNames j (start ++ name ++ if parts.isEmpty then "" else "/") parts
      if !hasWildcards part then goOn (fieldText part)
      else
        let hidden := part.head?.any fun (c, _) => c = '.'
        match j.namesIn (if start = "" then "." else start) with
        | .error _ => []
        | .ok entries =>
            let names := if hidden then [".", ".."] ++ entries.map (·.1)
              else (entries.map (·.1)).filter fun n => n.toList.head? ≠ some '.'
            let pattern := Wildcard.ofLetters part
            (names.filter fun n => Wildcard.fitsAll pattern n.toList).flatMap goOn

/-- The words that a field stands for: the names that fit it in order, or its text. -/
def wordsOf (s : State) (f : List Wildcard.Letter) : List String :=
  let text := fieldText f
  if s.has 'f' ∨ !hasWildcards f then [text]
  else
    let parts := f.splitOnP fun (c, _) => c = '/'
    let names := match parts with
      | [] :: parts => matchingNames s.job "/" parts
      | parts => matchingNames s.job "" parts
    if names.isEmpty then [text] else names.mergeSort fun a b => a ≤ b

/-- The shortest or longest start of a text that fits a pattern is left out. -/
def dropStart (longest : Bool) (pattern : List Wildcard) (cs : List Char) : List Char :=
  let lengths := List.range (cs.length + 1)
  let lengths := if longest then lengths.reverse else lengths
  match lengths.find? fun n => Wildcard.fitsAll pattern (cs.take n) with
  | some n => cs.drop n
  | none => cs

/-- The shortest or longest end of a text that fits a pattern is left out. -/
def dropEnd (longest : Bool) (pattern : List Wildcard) (cs : List Char) : List Char :=
  let starts := List.range (cs.length + 1)
  let starts := if longest then starts else starts.reverse
  match starts.find? fun n => Wildcard.fitsAll pattern (cs.drop n) with
  | some n => cs.take n
  | none => cs

/-- A text with the home directory in place of a tilde at its start; nothing if there is none. -/
def withHome (s : State) (text : String) : Option (String × String) :=
  match text.toList with
  | '~' :: cs =>
      let name := cs.takeWhile fun c => c ≠ '/' ∧ c ≠ ':'
      let home := if name = [] then s.value? "HOME"
        else if name = "root".toList then some "/root" else none
      home.map fun home => (home, String.ofList (cs.drop name.length))
  | _ => none

end ReplyScript.Shell
