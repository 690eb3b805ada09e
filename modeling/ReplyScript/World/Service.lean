import ReplyScript.Workspace.Search

/-! # Services

What a session can reach beyond its own state: the workspace, a clipboard, a terminal, diagnostics
and the user. A service that is called may be made to fail; every call and what came of it is
recorded.
-/

namespace ReplyScript

open Edit (Range)
open Disk (Path Tree)

/-- The services that may fail. -/
inductive Service where
  | read
  | write
  | list
  | search
  | openFile
  | readClipboard
  | writeClipboard
  | terminal
  | diagnostics
  deriving Repr, DecidableEq, BEq, Inhabited

/-- What a terminal command leaves behind. -/
structure Output where
  success : Bool := true
  stdout : String := ""
  stderr : String := ""
  deriving Repr, DecidableEq, BEq, Inhabited

/-- What runs terminal commands. -/
inductive Terminal where
  /-- Commands are answered in turn, and by an empty output when the answers are used up. -/
  | scripted (answers : List Output)
  /-- Commands run on the disk, in the directory of the workspace. They may read the input that is
  left, and what they leave of it is a result. -/
  | program (run : Tree → Path → (input : String) → (command : String) → Tree × String × Output)

/-- What the user has typed ahead. The program takes all of it in when it needs a first line, and
then commands find nothing to read. -/
structure Typed where
  /-- The lines the program has taken in and not used. -/
  lines : List String := []
  /-- What nobody has read. -/
  unread : String := ""
  deriving Repr, DecidableEq, BEq, Inhabited

/-- All lines that are still to come. -/
def Typed.remaining (t : Typed) : List String :=
  let ls := Text.lines t.unread
  t.lines ++ if ls.getLast? = some "" then ls.dropLast else ls

def Typed.next? (t : Typed) : Option (String × Typed) :=
  match t.remaining with
  | [] => none
  | line :: lines => some (line, ⟨lines, ""⟩)

/-- How bad a diagnosed problem is. -/
inductive Gravity where
  | error
  | warning
  | information
  | hint
  deriving Repr, DecidableEq, BEq, Inhabited

/-- A problem in a file. -/
structure Diagnostic where
  message : String
  gravity : Gravity
  range : Range
  deriving Repr, DecidableEq, BEq, Inhabited

/-- Who is asked before a terminal command runs. -/
inductive Confirmer where
  /-- Questions are answered in turn, and by no when the answers are used up. -/
  | scripted (answers : List Bool)
  /-- The user answers with the next line of input. -/
  | user
  deriving Repr, DecidableEq, BEq, Inhabited

/-- What is recorded. -/
inductive Event where
  /-- A service was called, on what. -/
  | called (service : Service) (subject : String)
  /-- A terminal command ran. -/
  | ran (command : String)
  /-- Someone was asked whether a terminal command may run. -/
  | asked (command : String)
  /-- A file was diagnosed. -/
  | diagnosed (path : String)
  /-- The pending request is now this text. -/
  | request (text : String)
  /-- The attached snippets are now from these places. -/
  | snippets (locations : List String)
  /-- The user was told of a failure. -/
  | notified (text : String)
  /-- A message came in while the model was at work, and was answered like this. -/
  | arrived (answer : String)
  deriving Repr, DecidableEq, BEq, Inhabited

/-- Everything outside a session. -/
structure World where
  workspace : Workspace
  clipboard : String
  terminal : Terminal
  diagnostics : List Diagnostic
  confirmer : Option Confirmer
  /-- What the next calls of a service come to: a fault, or nothing out of the ordinary. -/
  faults : Service → List (Option Fault)
  input : Typed
  events : List Event

/-- An operation on the world, which may change it also if it fails. -/
abbrev WorldM := ExceptT Fault (StateM World)

namespace World

/-- A world with nothing but a workspace. -/
def ofWorkspace (workspace : Workspace) (terminal : Terminal) : World where
  workspace := workspace
  clipboard := ""
  terminal := terminal
  diagnostics := []
  confirmer := none
  faults := fun _ => []
  input := {}
  events := []

def record (w : World) (e : Event) : World :=
  { w with events := w.events ++ [e] }

def takeFault (w : World) (service : Service) : Option Fault × World :=
  match w.faults service with
  | [] => (none, w)
  | fault :: rest =>
      (fault, { w with faults := fun s => if s = service then rest else w.faults s })

/-- Call a service on a subject. -/
def call (service : Service) (subject : String) : WorldM Unit := do
  modify (·.record (.called service subject))
  let (fault, w) := (← get).takeFault service
  set w
  match fault with
  | some fault => throw fault
  | none => return

def inWorkspace (op : WorkspaceM α) : WorldM α := do
  let w ← get
  let (result, workspace) := op.run.run w.workspace
  set { w with workspace }
  match result with
  | .ok a => return a
  | .error fault => throw fault

def readText (path : String) : WorldM String := do
  call .read path
  inWorkspace (Workspace.readText path)

def writeFile (path text : String) : WorldM Unit := do
  call .write path
  inWorkspace (Workspace.writeFile path text)

def listDirectory (path : String) : WorldM (List (String × EntryKind)) := do
  call .list path
  inWorkspace (Workspace.listDirectory path)

def search (pattern : String) : WorldM (List Hit) := do
  call .search pattern
  inWorkspace (Workspace.search pattern)

def openFile (path : String) : WorldM Document := do
  call .openFile path
  inWorkspace (Workspace.openFile path)

def readClipboard : WorldM String := do
  call .readClipboard ""
  return (← get).clipboard

def writeClipboard (text : String) : WorldM Unit := do
  call .writeClipboard text
  modify fun w => { w with clipboard := text }

def runCommand (command : String) : WorldM Output := do
  call .terminal command
  modify (·.record (.ran command))
  let w ← get
  match w.terminal with
  | .scripted [] => return {}
  | .scripted (output :: answers) =>
      set { w with terminal := .scripted answers }
      return output
  | .program run =>
      match w.workspace.disk.list w.workspace.root with
      | .error e => throw (.io ("cannot run \x60" ++ command ++ "\x60: " ++ e.message))
      | .ok _ =>
          let (disk, unread, output) := run w.workspace.disk w.workspace.root w.input.unread command
          set { w with
            workspace := { w.workspace with disk }
            input := { w.input with unread } }
          return output

/-- The problems in a file. -/
def diagnose (path : String) : WorldM (List Diagnostic) := do
  call .diagnostics path
  modify (·.record (.diagnosed path))
  return (← get).diagnostics

def saysYes (line : String) : Bool :=
  ["y", "Y", "yes"].contains (Text.trim line)

/-- Whether a terminal command may run. Without a confirmer every command may. -/
def confirm (command : String) (w : World) : Bool × World :=
  match w.confirmer with
  | none => (true, w)
  | some (.scripted answers) =>
      let w := w.record (.asked command)
      (answers.headD false, { w with confirmer := some (.scripted answers.tail) })
  | some .user =>
      let w := w.record (.asked command)
      match w.input.next? with
      | none => (false, w)
      | some (line, input) => (saysYes line, { w with input })

end World

end ReplyScript
