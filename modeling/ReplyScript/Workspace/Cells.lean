import ReplyScript.Workspace.Desk

/-! # Buffers in cells

A `Workspace` looks up the buffer of a file whenever it is used. Here every buffer lies in a cell of
its own: the cell of a file is looked up when the file is opened, read or written, and a handle goes
straight to the cell it was given. The operations are those of `Workspace`, `Document` and `Desk`.
-/

namespace ReplyScript

open Disk (Path Tree)
open Edit (Position Buffer Change)

/-- A directory of a disk, all buffers that were made, and the cells in which the buffers of open
files lie. -/
structure CellWorkspace where
  root : Path
  disk : Tree
  cells : List Buffer
  cache : List (Path × Nat)
  deriving Repr, DecidableEq, BEq, Inhabited

/-- An operation on cells that may change them, also if it fails. -/
abbrev CellM := ExceptT Fault (StateM CellWorkspace)

/-- A handle on an open file that holds the cell of its buffer. -/
structure CellDocument extends Document where
  cell : Nat
  deriving Repr, DecidableEq, BEq, Inhabited

namespace CellWorkspace

def ofDisk (root : Path) (disk : Tree) : CellWorkspace :=
  ⟨root, disk, [], []⟩

def resolve (w : CellWorkspace) (path : String) : Except Fault Path :=
  (Workspace.ofDisk w.root w.disk).resolve path

/-- The cell of a file, if it has been opened. -/
def cell? (w : CellWorkspace) (file : Path) : Option Nat :=
  w.cache.lookup file

/-- The buffer in a cell. -/
def buffer (w : CellWorkspace) (cell : Nat) : Buffer :=
  w.cells.getD cell (.ofText "")

/-- Let a cell have a buffer. -/
def setBuffer (w : CellWorkspace) (cell : Nat) (b : Buffer) : CellWorkspace :=
  { w with cells := w.cells.set cell b }

/-- The text of a file on disk. The buffer in the cell is brought up to date with it. -/
def load (w : CellWorkspace) (file : Path) (cell : Nat) :
    Except Disk.FileError (String × CellWorkspace) :=
  match w.disk.readText file with
  | .ok text => .ok (text, w.setBuffer cell ((w.buffer cell).sync text))
  | .error e => .error e

/-- Give a file a new cell. -/
def add (w : CellWorkspace) (file : Path) (text : String) : CellWorkspace :=
  { w with
    cells := w.cells ++ [.ofText text]
    cache := w.cache ++ [(file, w.cells.length)] }

/-- The cell of a file, which is a new one if it has none. -/
def enter (w : CellWorkspace) (file : Path) (text : String) : Nat × CellWorkspace :=
  match w.cell? file with
  | some cell => (cell, w)
  | none => (w.cells.length, w.add file text)

/-! ## Files -/

/-- The place to which a path leads. -/
def locate (path : String) : CellM Path := do
  match (← get).resolve path with
  | .ok file => return file
  | .error fault => throw fault

/-- Read a file. If it is open, the buffer in its cell is brought up to date with the same text. -/
def readText (path : String) : CellM String := do
  let file ← locate path
  let w ← get
  match w.cell? file with
  | some cell =>
      match w.load file cell with
      | .ok (text, w) =>
          set w
          return text
      | .error e => throw (.ofFileError path e)
  | none =>
      match w.disk.readText file with
      | .ok text => return text
      | .error e => throw (.ofFileError path e)

def writeDisk (path : String) (file : Path) (text : String) : CellM Unit := do
  match (← get).disk.write file (.text text) with
  | .ok disk => modify fun w => { w with disk }
  | .error e => throw (.ofFileError path e)

/-- Start the buffer of a file anew, if the file is open. -/
def restart (w : CellWorkspace) (file : Path) (text : String) : CellWorkspace :=
  match w.cell? file with
  | some cell => w.setBuffer cell (.ofText text)
  | none => w

/-- Create or overwrite a file, with the directories that it needs. -/
def writeFile (path text : String) : CellM Unit := do
  let file ← locate path
  let (disk, error) := (← get).disk.makeDirectories file.dropLast
  modify fun w => { w with disk }
  match error with
  | some e => throw (.ofFileError path e)
  | none =>
      writeDisk path file text
      modify fun w => w.restart file text

def listDirectory (path : String) : CellM (List (String × EntryKind)) := do
  let file ← locate path
  match (← get).disk.list file with
  | .ok entries => return entries.map fun (name, entry) => (name, .ofEntry entry)
  | .error e => throw (.ofFileError path e)

/-- Open a file. Handles on one file get the same cell, and only the first of them makes it. -/
def openFile (path : String) : CellM CellDocument := do
  let file ← locate path
  let w ← get
  match w.cell? file with
  | some cell =>
      match w.load file cell with
      | .ok (_, w) =>
          set w
          return ⟨⟨path, file, .caret ⟨0, 0⟩⟩, cell⟩
      | .error e => throw (.ofFileError path e)
  | none =>
      match w.disk.readText file with
      | .ok text =>
          let (cell, w) := w.enter file text
          set w
          return ⟨⟨path, file, .caret ⟨0, 0⟩⟩, cell⟩
      | .error e => throw (.ofFileError path e)

end CellWorkspace

namespace CellDocument

open CellWorkspace

def buffer (d : CellDocument) (w : CellWorkspace) : Buffer :=
  w.buffer d.cell

def outOfRange (d : CellDocument) (w : CellWorkspace) (p : Position) : Fault :=
  .outOfRange d.path p (d.buffer w).lineCount

/-- Bring the buffer up to date with the disk. A file that is gone leaves the buffer as it is. -/
def refresh (d : CellDocument) : CellM Unit := do
  match (← get).load d.file d.cell with
  | .ok (_, w) => set w
  | .error .notFound => return
  | .error e => throw (.ofFileError d.path e)

/-- Write the buffer through to the disk. -/
def save (d : CellDocument) : CellM Unit := do
  writeDisk d.path d.file (d.buffer (← get)).text

/-- Put another buffer into the cell and save it. The cell keeps it also if saving fails. -/
def become (d : CellDocument) (b : Buffer) : CellM Unit := do
  modify fun w => w.setBuffer d.cell b
  d.save

/-- Change the buffer in the cell after it has been brought up to date. -/
def change (d : CellDocument) (c : Change) : CellM Unit := do
  d.refresh
  let w ← get
  match (d.buffer w).change c with
  | .ok (some b) => d.become b
  | .ok none => return
  | .error p => throw (d.outOfRange w p)

end CellDocument

/-- A workspace with cells, and the handles that were given out on it. -/
structure CellDesk where
  workspace : CellWorkspace
  handles : List CellDocument
  deriving Repr, DecidableEq, BEq, Inhabited

namespace CellDesk

def ofDisk (root : Path) (disk : Tree) : CellDesk :=
  ⟨.ofDisk root disk, []⟩

def after (desk : CellDesk) (op : CellM α) : CellDesk :=
  { desk with workspace := (op.run.run desk.workspace).2 }

/-- Let one thing happen, as `Desk.step` does. -/
def step (desk : CellDesk) : Happening → CellDesk
  | .opens path =>
      match (CellWorkspace.openFile path).run.run desk.workspace with
      | (.ok d, workspace) => ⟨workspace, desk.handles ++ [d]⟩
      | (.error _, workspace) => { desk with workspace }
  | .reads path => desk.after (CellWorkspace.readText path)
  | .writes path text => desk.after (CellWorkspace.writeFile path text)
  | .lists path => desk.after (CellWorkspace.listDirectory path)
  | .selects i range =>
      { desk with handles := desk.handles.modify i fun d => { d with selection := range } }
  | .changes i c =>
      match desk.handles[i]? with
      | some d => desk.after (d.change c)
      | none => desk
  | .outside disk => { desk with workspace := { desk.workspace with disk } }

def run (desk : CellDesk) (happenings : List Happening) : CellDesk :=
  happenings.foldl step desk

end CellDesk

end ReplyScript
