import ReplyScript.Disk.Tree
import ReplyScript.Edit.Buffer
import ReplyScript.Workspace.Fault

/-! # Workspaces

A workspace is a directory with buffers for the files that have been opened. There is one buffer for
a file, whatever path it was opened by. A buffer is brought up to date with the disk before it is
used, and written back after every edit.
-/

namespace ReplyScript

open Disk (Path Tree)
open Edit (Position Range Buffer)

/-- A directory of a disk, and the buffers of open files. -/
structure Workspace where
  root : Path
  disk : Tree
  buffers : List (Path × Buffer)
  deriving Repr, DecidableEq, BEq, Inhabited

/-- An operation that may change the workspace, also if it fails. -/
abbrev WorkspaceM := ExceptT Fault (StateM Workspace)

/-- A handle on an open file, with a selection of its own. -/
structure Document where
  /-- The path the file was opened by. -/
  path : String
  file : Path
  selection : Range
  deriving Repr, DecidableEq, BEq, Inhabited

/-- What a directory lists an entry as. -/
inductive EntryKind where
  | file
  | directory
  | symbolicLink
  deriving Repr, DecidableEq, BEq, Inhabited

namespace EntryKind

def name : EntryKind → String
  | file => "File"
  | directory => "Directory"
  | symbolicLink => "SymbolicLink"

def ofEntry : Disk.Entry → EntryKind
  | .file _ => file
  | .directory => directory
  | .link _ => symbolicLink

end EntryKind

namespace Workspace

/-- A workspace without open files. -/
def ofDisk (root : Path) (disk : Tree) : Workspace :=
  ⟨root, disk, []⟩

def parts (path : String) : List String :=
  (path.toList.splitOn '/').map String.ofList

/-- The file at a path below the root. Paths that start at the top or lead upwards are refused. -/
def resolve (w : Workspace) (path : String) : Except Fault Path :=
  if path.toList.head? = some '/' ∨ ".." ∈ parts path then
    .error (.invalidInput ("path '" ++ path ++ "' leaves the workspace"))
  else .ok (w.root ++ (parts path).filter fun part => part ≠ "" ∧ part ≠ ".")

def buffer? (w : Workspace) (file : Path) : Option Buffer :=
  w.buffers.lookup file

/-- The buffer of a file; empty if there is none. -/
def buffer (w : Workspace) (file : Path) : Buffer :=
  (w.buffer? file).getD (.ofText "")

def setBuffer (w : Workspace) (file : Path) (b : Buffer) : Workspace :=
  { w with buffers := Keyed.put file b w.buffers }

/-- Bring the buffer of a file, if there is one, up to date with a text. -/
def syncBuffer (w : Workspace) (file : Path) (text : String) : Workspace :=
  match w.buffer? file with
  | some b => w.setBuffer file (b.sync text)
  | none => w

/-- The text of a file on disk. The buffer of the file is brought up to date with it. -/
def load (w : Workspace) (file : Path) : Except Disk.FileError (String × Workspace) :=
  match w.disk.readText file with
  | .ok text => .ok (text, w.syncBuffer file text)
  | .error e => .error e

def locate (path : String) : WorkspaceM Path := do
  match (← get).resolve path with
  | .ok file => return file
  | .error fault => throw fault

def readText (path : String) : WorkspaceM String := do
  let file ← locate path
  match (← get).load file with
  | .ok (text, w) =>
      set w
      return text
  | .error e => throw (.ofFileError path e)

def writeDisk (path : String) (file : Path) (text : String) : WorkspaceM Unit := do
  match (← get).disk.write file (.text text) with
  | .ok disk => modify fun w => { w with disk }
  | .error e => throw (.ofFileError path e)

/-- Create or overwrite a file, with the directories on the way to it. A buffer of the file starts
anew. -/
def writeFile (path text : String) : WorkspaceM Unit := do
  let file ← locate path
  let (disk, error) := (← get).disk.makeDirectories file.dropLast
  modify fun w => { w with disk }
  match error with
  | some e => throw (.ofFileError path e)
  | none =>
      writeDisk path file text
      modify fun w =>
        if (w.buffer? file).isSome then w.setBuffer file (.ofText text) else w

def listDirectory (path : String) : WorkspaceM (List (String × EntryKind)) := do
  let file ← locate path
  match (← get).disk.list file with
  | .ok entries => return entries.map fun (name, entry) => (name, .ofEntry entry)
  | .error e => throw (.ofFileError path e)

def openFile (path : String) : WorkspaceM Document := do
  let file ← locate path
  match (← get).load file with
  | .ok (text, w) =>
      set (if (w.buffer? file).isSome then w else w.setBuffer file (.ofText text))
      return ⟨path, file, .caret ⟨0, 0⟩⟩
  | .error e => throw (.ofFileError path e)

end Workspace

namespace Document

open Workspace

def buffer (d : Document) (w : Workspace) : Buffer :=
  w.buffer d.file

def lineCount (d : Document) (w : Workspace) : Nat :=
  (d.buffer w).lineCount

/-- The fault of a position that is out of bounds. -/
def outOfRange (d : Document) (w : Workspace) (p : Position) : Fault :=
  .outOfRange d.path p (d.lineCount w)

def lineText (d : Document) (line : Nat) : WorkspaceM String := do
  let w ← get
  match (d.buffer w).lines[line]? with
  | some text => return text
  | none => throw (d.outOfRange w ⟨line, 0⟩)

def textIn (d : Document) (range : Range) : WorkspaceM String := do
  let w ← get
  match (d.buffer w).textIn range with
  | .ok text => return text
  | .error p => throw (d.outOfRange w p)

/-- Bring the buffer up to date with the disk. A file that is gone leaves the buffer as it is. -/
def refresh (d : Document) : WorkspaceM Unit := do
  match (← get).load d.file with
  | .ok (_, w) => set w
  | .error .notFound => return
  | .error e => throw (.ofFileError d.path e)

/-- Write the buffer back to the disk. -/
def save (d : Document) : WorkspaceM Unit := do
  writeDisk d.path d.file (d.buffer (← get)).text

/-- Let the buffer be another one, and write it back. -/
def become (d : Document) (b : Buffer) : WorkspaceM Unit := do
  modify fun w => w.setBuffer d.file b
  d.save

def replace (d : Document) (range : Range) (text : String) : WorkspaceM Unit := do
  d.refresh
  let w ← get
  match (d.buffer w).replace range text with
  | .ok b => d.become b
  | .error p => throw (d.outOfRange w p)

def insert (d : Document) (p : Position) (text : String) : WorkspaceM Unit :=
  d.replace (.caret p) text

def delete (d : Document) (range : Range) : WorkspaceM Unit :=
  d.replace range ""

def turn (d : Document) (version : Buffer → Option Buffer) : WorkspaceM Unit := do
  d.refresh
  match version (d.buffer (← get)) with
  | some b => d.become b
  | none => return

/-- Take back the last edit, if there is one. -/
def undo (d : Document) : WorkspaceM Unit :=
  d.turn Buffer.undo?

/-- Make the last edit that was taken back again, if there is one. -/
def redo (d : Document) : WorkspaceM Unit :=
  d.turn Buffer.redo?

end Document

end ReplyScript
