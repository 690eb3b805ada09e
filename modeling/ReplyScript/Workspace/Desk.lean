import ReplyScript.Edit.Change
import ReplyScript.Workspace.Basic

/-! # Desks

A workspace at work: the handles that were given out on its files, and what happens to them, to the
files and to the disk.
-/

namespace ReplyScript

open Disk (Tree)
open Edit (Range Change)

/-- Make a change through a handle. -/
def Document.change (d : Document) : Change → WorkspaceM Unit
  | .insert p text => d.insert p text
  | .replace range text => d.replace range text
  | .delete range => d.delete range
  | .undo => d.undo
  | .redo => d.redo

/-- A workspace, and the handles that were given out on it. -/
structure Desk where
  workspace : Workspace
  handles : List Document
  deriving Repr, DecidableEq, BEq, Inhabited

/-- What happens at a desk. Handles are named by the order in which they were given out. -/
inductive Happening where
  | opens (path : String)
  | reads (path : String)
  | writes (path text : String)
  | lists (path : String)
  | selects (handle : Nat) (range : Range)
  | changes (handle : Nat) (change : Change)
  /-- Something outside leaves the disk like this. -/
  | outside (disk : Tree)
  deriving Repr, DecidableEq, BEq, Inhabited

/-- Whether it is the workspace that does it. -/
def Happening.isInside : Happening → Bool
  | .outside _ => false
  | _ => true

namespace Desk

/-- A directory of a disk, with nothing open. -/
def ofDisk (root : Disk.Path) (disk : Tree) : Desk :=
  ⟨.ofDisk root disk, []⟩

def after (desk : Desk) (op : WorkspaceM α) : Desk :=
  { desk with workspace := (op.run.run desk.workspace).2 }

def step (desk : Desk) : Happening → Desk
  | .opens path =>
      match (Workspace.openFile path).run.run desk.workspace with
      | (.ok d, workspace) => ⟨workspace, desk.handles ++ [d]⟩
      | (.error _, workspace) => { desk with workspace }
  | .reads path => desk.after (Workspace.readText path)
  | .writes path text => desk.after (Workspace.writeFile path text)
  | .lists path => desk.after (Workspace.listDirectory path)
  | .selects i range =>
      { desk with handles := desk.handles.modify i fun d => { d with selection := range } }
  | .changes i c =>
      match desk.handles[i]? with
      | some d => desk.after (d.change c)
      | none => desk
  | .outside disk => { desk with workspace := { desk.workspace with disk } }

def run (desk : Desk) (happenings : List Happening) : Desk :=
  happenings.foldl step desk

end Desk

end ReplyScript
