import ReplyScript.Script.Reading
import ReplyScript.Session.Batch
import ReplyScript.Shell.Run
import ReplyScript.Text.Lines
import ReplyScript.Text.Quoted
import ReplyScript.Trial.File

/-! # Checking trials

A trial is checked in a workspace of its own, which holds the files that it names. The first
expectation that is not met is the failure.
-/

namespace ReplyScript.Trial

open Disk (FileError Path Tree)
open Script (Finding)
open Text (quote quoteList holds)

/-- Why a trial fails. -/
inductive Failure where
  | readWell
  | parseError (errors : List String)
  | commands (expected actual : List String)
  | warningCount (expected : Nat) (actual : List String)
  | warningText (index : Nat) (expected actual : String)
  | warningLine (index expected actual : Nat)
  | cannotSeed (path : String) (e : FileError)
  | errorText (expected actual : String)
  | noError (expected : String)
  | aborted (a : Abort)
  | request (expected actual : String)
  | memory (expected actual : String)
  | active (expected : String) (actual : Option String)
  | cannotRead (path : String) (e : FileError)
  | fileText (path expected actual : String)
  deriving Repr, DecidableEq, BEq

/-- An expected value and the one that was found, on lines of their own. -/
def comparison (expected actual : String) : String :=
  "\n  expected: " ++ expected ++ "\n  actual:   " ++ actual

/-- A text that may be missing. -/
def shownOption : Option String → String
  | none => "None"
  | some s => "Some(" ++ quote s ++ ")"

def Failure.message : Failure → String
  | readWell => "expected parse error, but parsing succeeded"
  | parseError errors => "unexpected parse error: " ++ "; ".intercalate errors
  | commands expected actual =>
      "command mismatch" ++ comparison (quoteList expected) (quoteList actual)
  | warningCount expected actual =>
      "expected " ++ toString expected ++ " warning(s), got " ++ toString actual.length
        ++ "\n  actual warnings:\n"
        ++ (if actual = [] then "    (none)"
          else "\n".intercalate (actual.map ("    - " ++ ·)))
  | warningText index expected actual =>
      "warning[" ++ toString index ++ "]: expected message containing \"" ++ expected
        ++ "\", got: " ++ actual
  | warningLine index expected actual =>
      "warning[" ++ toString index ++ "]: expected on line " ++ toString expected
        ++ ", but span is on line " ++ toString actual
  | cannotSeed path e => "cannot seed " ++ path ++ ": " ++ e.message
  | errorText expected actual =>
      "expected error containing \"" ++ expected ++ "\", got: " ++ actual
  | noError expected =>
      "expected error containing \"" ++ expected ++ "\", but the batch completed"
  | aborted a => "unexpected abort: " ++ a.message
  | request expected actual =>
      "request text does not contain \"" ++ expected ++ "\"\n  actual: " ++ actual
  | memory expected actual => "memory mismatch" ++ comparison (quote expected) (quote actual)
  | active expected actual =>
      "expected active document " ++ expected ++ ", got " ++ shownOption actual
  | cannotRead path e => "cannot read " ++ path ++ ": " ++ e.message
  | fileText path expected actual =>
      path ++ " mismatch" ++ comparison (quote expected) (quote actual)

/-- Fail unless a condition holds. -/
def demand (condition : Bool) (failure : Failure) : Except Failure Unit :=
  if condition then .ok () else .error failure

/-- The number of newlines before a byte of a text. -/
def newlinesBefore : (offset : Nat) → List Char → Nat
  | 0, _ | _, [] => 0
  | offset + 1, c :: cs =>
      (if c = '\n' then 1 else 0) + newlinesBefore (offset + 1 - c.utf8Size) cs

def lineOfByte (text : String) (offset : Nat) : Nat :=
  newlinesBefore offset text.toList + 1

def checkWarning (reply : String) (index : Nat) (actual : Finding) (expected : ExpectedWarning) :
    Except Failure Unit := do
  demand (holds actual.display expected.holds) (.warningText index expected.holds actual.display)
  match expected.line with
  | none => return
  | some line =>
      let actualLine := lineOfByte reply actual.span.start
      demand (actualLine = line) (.warningLine index line actualLine)

def checkWarningsFrom (reply : String) (index : Nat) :
    List Finding → List ExpectedWarning → Except Failure Unit
  | actual :: actuals, expected :: expecteds => do
      checkWarning reply index actual expected
      checkWarningsFrom reply (index + 1) actuals expecteds
  | _, _ => return

def checkWarnings (reply : String) (actual : List Finding) (expected : List ExpectedWarning) :
    Except Failure Unit := do
  demand (actual.length = expected.length)
    (.warningCount expected.length (actual.map Finding.display))
  checkWarningsFrom reply 0 actual expected

def scratch : Path := ["tmp", "trial"]

def seedFile (t : Tree) (path text : String) : Except Failure Tree :=
  let place := Path.ofText scratch path
  match t.makeDirectories (place.filter (· ≠ ".")).dropLast with
  | (_, some e) => .error (.cannotSeed path e)
  | (t, none) =>
      match t.writeAt scratch (if path = "" then "." else path) (.text text) with
      | .ok t => .ok t
      | .error e => .error (.cannotSeed path e)

/-- Put files into the workspace of a trial. -/
def seed (files : List (String × String)) : Except Failure Tree :=
  files.foldlM (fun t (path, text) => seedFile t path text)
    ((Tree.empty.plant scratch .directory))

def checkAbort : Option String → Option Abort → Except Failure Unit
  | none, none => .ok ()
  | none, some a => .error (.aborted a)
  | some expected, none => .error (.noError expected)
  | some expected, some a =>
      let message := a.error.message
      demand (holds message expected) (.errorText expected message)

/-- Check the session after the commands. -/
def checkSession (e : Expectations) (s : Session) : Except Failure Unit := do
  e.requestHolds.forM fun needle => demand (holds s.request needle) (.request needle s.request)
  match e.memory with
  | none => pure ()
  | some memory => demand (s.memory = memory) (.memory memory s.memory)
  match e.active with
  | none => pure ()
  | some path =>
      let actual := s.active.map Document.path
      demand (actual = some path) (.active path actual)

/-- Check a file after the commands. -/
def checkFile (t : Tree) (path text : String) : Except Failure Unit :=
  match t.readText (Path.ofText scratch path) with
  | .error e => .error (.cannotRead path e)
  | .ok actual => demand (actual = text) (.fileText path text actual)

/-- A check that may use up what the user has typed ahead. -/
abbrev CheckM := ExceptT Failure (StateM String)

/-- Perform a script in the workspace of a trial, and check what it leaves behind. -/
def checkScript (environment : List (String × String)) (e : Expectations) (script : Script) :
    CheckM Unit := do
  let disk ← seed e.files
  let world := { World.ofWorkspace (.ofDisk scratch disk) (.program (Shell.run environment)) with
    input := { unread := ← get } }
  let (abort, scene) := performAll script.commands ⟨.empty, world⟩
  set scene.world.input.unread
  checkAbort e.error abort
  checkSession e scene.session
  e.finalFiles.forM fun (path, text) =>
    liftM (checkFile scene.world.workspace.disk path text)

/-- Check a trial. `environment` is what terminal commands find in their environment. -/
def check (environment : List (String × String)) (t : Trial) : CheckM Unit := do
  let e := t.expectations
  match Script.read t.reply with
  | .error errors =>
      demand e.parseError (.parseError (errors.map Finding.display))
  | .ok script =>
      if e.parseError then throw .readWell
      match e.commands with
      | none => pure ()
      | some commands =>
          let actual := script.commands.map Script.Command.display
          demand (actual = commands) (.commands commands actual)
      match e.warnings with
      | none => pure ()
      | some warnings => checkWarnings t.reply script.warnings warnings
      checkScript environment e script

end ReplyScript.Trial
