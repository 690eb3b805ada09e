import ReplyScript.Console
import ReplyScript.Trial.Category
import ReplyScript.Trial.Check

/-! # Reports on trials

Trials run category by category. A line tells of each; then come the reasons of those that failed,
and how many there were of either kind.
-/

namespace ReplyScript.Trial

open Console (Printed)
open Console.Printed (messageLine)
open Disk (Path Tree)

/-- How a trial ended. -/
structure Verdict where
  path : String
  description : Option String
  failure : Option String
  deriving Repr, DecidableEq, BEq, Inhabited

/-- Remove a suffix from the end as often as it is there, from a text given backwards. -/
def dropSuffixes (back : List Char) : (fuel : Nat) → List Char → List Char
  | 0, cs => cs
  | fuel + 1, cs =>
      if back.isPrefixOf cs then dropSuffixes back fuel (cs.drop back.length) else cs

/-- The name of a trial file without its suffix. -/
def baseName (path : String) : String :=
  let name := ((Path.ofText [] path).filter (· ≠ ".")).getLast?.getD "?"
  let back := name.toList.reverse
  String.ofList (dropSuffixes suffix.toList.reverse back.length back).reverse

/-- What a trial is called: its description, or the name of its file. -/
def Verdict.label (v : Verdict) : String :=
  v.description.getD (baseName v.path)

/-- Run the trial in a file. It may use up what the user has typed ahead. -/
def runFile (environment : List (String × String)) (t : Tree) (here : Path) (path : String) :
    StateM String Verdict := do
  match t.textAt here path with
  | .error e => return ⟨path, none, some ("cannot read file: " ++ e.message)⟩
  | .ok text =>
      match Trial.read text with
      | .error problem => return ⟨path, none, some ("frontmatter error: " ++ problem.message)⟩
      | .ok trial =>
          let failure := match ← (check environment trial).run with
            | .ok () => none
            | .error failure => some failure.message
          return ⟨path, trial.expectations.description, failure⟩

/-- Whether reports are coloured. -/
structure Style where
  color : Bool
  deriving Repr, DecidableEq, BEq, Inhabited

def Style.paint (s : Style) (code text : String) : String :=
  if s.color then "\x1b[" ++ code ++ "m" ++ text ++ "\x1b[0m" else text

def Verdict.line (s : Style) (v : Verdict) : Printed :=
  let mark := if v.failure.isNone then s.paint "32" "PASS" else s.paint "31" "FAIL"
  messageLine ("  " ++ mark ++ "  " ++ v.label)

/-- The lines of a reason; an empty last line does not count. -/
def reasonLines (reason : String) : List String :=
  let ls := Text.lines reason
  (if ls.getLast? = some "" then ls.dropLast else ls).map Text.dropCarriageReturn

def Verdict.details (v : Verdict) : List Printed :=
  match v.failure with
  | none => []
  | some reason =>
      [messageLine "", messageLine ("  --- " ++ v.path ++ " ---")]
        ++ (reasonLines reason).map fun line => messageLine ("  " ++ line)

/-- The last line of a report. -/
def summary (s : Style) (passed failed : Nat) : Printed :=
  messageLine (if failed = 0 then
      "test result: " ++ s.paint "32" "ok" ++ ". " ++ toString passed ++ " passed, 0 failed"
    else
      "test result: " ++ s.paint "31" "FAILED" ++ ". " ++ toString passed ++ " passed, "
        ++ toString failed ++ " failed (of " ++ toString (passed + failed) ++ ")")

/-- The report on groups of verdicts, each under a heading if it has one. -/
def report (s : Style) (groups : List (Option String × List Verdict)) : List Printed :=
  let verdicts := groups.flatMap (·.2)
  let failed := verdicts.filter fun v => v.failure.isSome
  (groups.flatMap fun (heading, verdicts) =>
    (match heading with
      | some text => [messageLine "", messageLine (s.paint "1" text)]
      | none => []) ++ verdicts.map (Verdict.line s))
    ++ (if failed = [] then []
      else [messageLine "", messageLine "failures:"] ++ failed.flatMap Verdict.details)
    ++ [messageLine "", summary s (verdicts.length - failed.length) failed.length]

def conclude (s : Style) (groups : List (Option String × List Verdict)) : List Printed × Nat :=
  (report s groups,
    if (groups.flatMap (·.2)).all fun v => v.failure.isNone then 0 else 1)

/-- What is said of a directory without trial files. -/
def noFiles (dir : String) : Printed :=
  messageLine ("no .test.md files found in " ++ dir)

def unknownCategory (all : Categories) (name : String) : Printed :=
  messageLine ("warning: category '" ++ name ++ "' not found (available: "
    ++ ", ".intercalate (all.map fun c => shownCategory c.1) ++ ")")

/-- Run the trials in a file, or in the asked-for categories of a directory: what is printed, and
the exit status. The trials share what the user has typed ahead. -/
def runAll (environment : List (String × String)) (t : Tree) (here : Path) (path : String)
    (names : List String) (s : Style) : StateM String (List Printed × Nat) := do
  let verdict := runFile environment t here
  if path ≠ "" ∧ t.isFile (Path.ofText here path) then
    return conclude s [(none, [← verdict path])]
  else
    match discover t here path with
    | [] => return ([noFiles path], 1)
    | all =>
        let (chosen, unknown) := all.select names
        let warnings := unknown.map (unknownCategory all)
        if chosen = [] then return (warnings ++ [messageLine "no matching categories found"], 1)
        else
          let groups ← chosen.mapM fun (name, files) => do
            return (some (shownCategory name), ← files.mapM verdict)
          let (pieces, status) := conclude s groups
          return (warnings ++ pieces, status)

def listCategories (t : Tree) (here : Path) (path : String) : List Printed :=
  if path ≠ "" ∧ t.isFile (Path.ofText here path) then
    [messageLine "(single file, no categories)"]
  else
    match discover t here path with
    | [] => [noFiles path]
    | all => messageLine "available categories:" :: all.map fun (name, files) =>
        messageLine ("  " ++ shownCategory name ++ " (" ++ toString files.length ++ " tests)")

end ReplyScript.Trial
