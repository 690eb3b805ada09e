import ReplyScript.Instruction.Action
import ReplyScript.Json.Value
import ReplyScript.Session.Scene

/-! # Performing actions

What each action does to the session and to the world. Actions that look something up report
failures to the model as data; other failures, and internal ones always, end the action with an
error.
-/

namespace ReplyScript

open Edit (Position Range)
open Json (Value)
open Prompt (Snippet)
open Scene

/-- Lines `start` to `stop` of a text. -/
def excerpt (content : String) (start stop : Nat) : String :=
  Text.unlines (((Text.lines content).take (stop + 1)).drop start)

/-- The snippet for a file, or for the lines of it that were asked for. -/
def captureSnippet (path content : String) : (start stop : Option Nat) → Snippet
  | none, _ => .file path content
  | some start, stop =>
      let last := Text.lineCount content - 1
      .selection path (excerpt content start (min (stop.getD last) last)) start

def performReadFile (path : String) (start stop : Option Nat) : SceneM Unit := do
  match ← probe .readFile (World.readText path) with
  | .error text => respond .readFile text
  | .ok content =>
      let snippet := captureSnippet path content start stop
      modifySession fun s => { s with snippets := s.snippets ++ [snippet] }
      record (.snippets ((← get).session.snippets.map Snippet.location))
      respond .readFile ("attached \"" ++ path ++ "\" as context ("
        ++ toString (Text.lineCount snippet.content) ++ " lines)")

/-- Tell what a directory holds. -/
def performListFiles (path : String) : SceneM Unit := do
  match ← probe .listFiles (World.listDirectory path) with
  | .error text => respond .listFiles text
  | .ok entries =>
      respond .listFiles
        (Text.unlines (entries.map fun (name, kind) => name ++ " (" ++ kind.name ++ ")"))

/-- Create an empty file, whatever was there before. Only a failure is told. -/
def performCreateFile (path : String) : SceneM Unit := do
  match ← probe .createFile (World.writeFile path "") with
  | .error text => respond .createFile text
  | .ok () => return

/-- Open a file for input; one that is missing is created first. -/
def openForInput (path : String) : SceneM Document := do
  match ← attempt (World.openFile path) with
  | .ok d => return d
  | .error (.notFound _) =>
      demand .input (World.writeFile path "")
      demand .input (World.openFile path)
  | .error f => throw (.failed Instruction.input.name f)

/-- So many lines are shown before and after an insertion. -/
def windowMargin : Nat := 20

/-- The lines around a text that was put into a document at a line. -/
def insertionWindow (d : Document) (line : Nat) (text : String) : WorkspaceM String := do
  let last := d.lineCount (← get) - 1
  let stop := min (line + Text.lineCount text + windowMargin) last
  let stopColumn := (← d.lineText stop).length
  d.textIn (.ofCoordinates (line - windowMargin) 0 stop stopColumn)

/-- Put a text into a file, and tell what its surroundings look like then. -/
def performInput (path : String) (position : Position) (text : String) : SceneM Unit := do
  let d ← openForInput path
  let d := { d with selection := .caret position }
  activate d
  demand .input (World.inWorkspace (d.insert position text))
  let window ← demand .input (World.inWorkspace (insertionWindow d position.line text))
  respond .input window

/-- Select a range of the active document, and tell its text. -/
def performSelect (range : Range) : SceneM Unit := do
  let d ← activeDocument .select
  let d := { d with selection := range }
  activate d
  let text ← demand .select (World.inWorkspace (d.textIn range))
  respond .select text

/-- Put a text in place of a range of a file. -/
def performReplace (path : String) (range : Range) (text : String) : SceneM Unit := do
  let d ← demand .replace (World.openFile path)
  activate d
  demand .replace (World.inWorkspace (d.replace range text))

/-- Copy a range of a file to the clipboard. The handle used for it is returned. -/
def copyRange (i : Instruction) (path : String) (range : Range) : SceneM Document := do
  let d ← demand i (World.openFile path)
  let text ← demand i (World.inWorkspace (d.textIn range))
  demand i (World.writeClipboard text)
  return d

/-- Move a range of a file to the clipboard. -/
def performCut (path : String) (range : Range) : SceneM Unit := do
  let _ ← activeDocument .cut
  let d ← copyRange .cut path range
  demand .cut (World.inWorkspace (d.delete range))

/-- Put the clipboard into a file. -/
def performPaste (path : String) (position : Position) : SceneM Unit := do
  let _ ← activeDocument .paste
  let d ← demand .paste (World.openFile path)
  let text ← demand .paste World.readClipboard
  activate d
  demand .paste (World.inWorkspace (d.insert position text))

/-- A diagnosed error as data. -/
def Diagnostic.toValue (d : Diagnostic) : Value :=
  .object [("message", .text d.message), ("line", .ofNat d.range.start.line),
    ("column", .ofNat d.range.start.column),
    ("length", .ofNat (d.range.stop.column - d.range.start.column))]

/-- Tell the errors in the active document. -/
def performGetSyntaxErrors : SceneM Unit := do
  let d ← activeDocument .getSyntaxErrors
  let diagnostics ← demand .getSyntaxErrors (World.diagnose d.path)
  let errors := diagnostics.filter fun d => d.gravity == .error
  respond .getSyntaxErrors (Value.array (errors.map Diagnostic.toValue)).pretty

def Hit.toValue (h : Hit) : Value :=
  .object [("file", .text h.file), ("line", .ofNat h.line), ("column", .ofNat h.column),
    ("length", .ofNat h.length)]

/-- Tell where a pattern is found. -/
def performSearch (query : String) : SceneM Unit := do
  match ← probe .search (World.search query) with
  | .error text => respond .search text
  | .ok hits => respond .search (Value.array (hits.map Hit.toValue)).pretty

/-- The response to a command that was not confirmed. -/
def cancelled : String := "user cancelled command"

/-- What the model is told about a terminal command: the error output if there is any or if the
command failed. -/
def Output.payload (command : String) (o : Output) : String :=
  if !o.success then "Command failed: " ++ command ++ "\n" ++ o.stderr
  else if o.stderr ≠ "" then o.stderr
  else o.stdout

/-- Ask whether a terminal command may run. -/
def confirm (command : String) : SceneM Bool := do
  let s ← get
  let (answer, world) := s.world.confirm command
  set { s with world }
  return answer

def performRunInTerminal (command : String) : SceneM Unit := do
  if ← confirm command then
    match ← probe .runInTerminal (World.runCommand command) with
    | .error text => respond .runInTerminal text
    | .ok output => respond .runInTerminal (output.payload command)
  else respond .runInTerminal cancelled

def Action.perform : Action → SceneM Unit
  | .readFile path start stop => performReadFile path start stop
  | .listFiles path => performListFiles path
  | .createFile path => performCreateFile path
  | .undo => do
      let d ← activeDocument .undo
      demand .undo (World.inWorkspace d.undo)
  | .redo => do
      let d ← activeDocument .redo
      demand .redo (World.inWorkspace d.redo)
  | .input path position text => performInput path position text
  | .select range => performSelect range
  | .replace path range text => performReplace path range text
  | .copy path range => do
      let _ ← copyRange .copy path range
  | .cut path range => performCut path range
  | .paste path position => performPaste path position
  | .getSyntaxErrors => performGetSyntaxErrors
  | .search query => performSearch query
  | .runInTerminal command => performRunInTerminal command
  | .memoryWrite text => modifySession fun s => { s with memory := s.memory ++ text }
  | .readMemory => do respond .readMemory (← get).session.memory
  | .clearMemory => modifySession fun s => { s with memory := "" }
  | .clearConversation => modifySession fun s => { s with history := [] }

end ReplyScript
