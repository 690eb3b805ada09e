import ReplyScript.Proofs.Disk.Frame
import ReplyScript.Proofs.Workspace.Operations

/-! # What operations of a workspace keep to

An operation of a workspace stays at its root, makes or changes no files but those it is about, and
never fails with an internal fault.
-/

namespace ReplyScript

open Disk (Path Tree)
open Edit (Buffer Change Position)
open Effect

variable {α β : Type}

namespace Workspace

variable {w : Workspace} {written : Path → Prop} {post : α → Prop}

/-- What an operation that began in a workspace has come to: the files among `written` may have been
made or changed, and `post` holds of the result. -/
structure Within (w : Workspace) (written : Path → Prop) (post : α → Prop)
    (run : Except Fault α × Workspace) : Prop where
  root : run.2.root = w.root
  disk : run.2.disk.Spares w.disk written
  post : ∀ a, run.1 = .ok a → post a
  plain : ∀ fault, run.1 = .error fault → fault.isInternal = false

namespace Within

theorem failed {fault : Fault} {u : Workspace} (plain : fault.isInternal = false)
    (root : u.root = w.root) (disk : u.disk.Spares w.disk written) :
    w.Within written post (.error fault, u) where
  root := root
  disk := disk
  post := nofun
  plain := by
    rintro _ ⟨⟩
    exact plain

theorem completed {a : α} {u : Workspace} (holds : post a) (root : u.root = w.root)
    (disk : u.disk.Spares w.disk written) : w.Within written post (.ok a, u) where
  root := root
  disk := disk
  post := by
    rintro _ ⟨⟩
    exact holds
  plain := nofun

theorem still {run : Except Fault α × Workspace} (same : run.2 = w)
    (holds : ∀ a, run.1 = .ok a → post a)
    (plain : ∀ fault, run.1 = .error fault → fault.isInternal = false) :
    w.Within written post run where
  root := by rw [same]
  disk := by
    rw [same]
    exact .refl w.disk written
  post := holds
  plain := plain

end Within

/-! ## Faults -/

theorem isInternal_ofFileError (path : String) (e : Disk.FileError) :
    (Fault.ofFileError path e).isInternal = false := by
  cases e <;> rfl

theorem isInternal_of_resolve {path : String} {fault : Fault}
    (refused : w.resolve path = .error fault) : fault.isInternal = false := by
  unfold resolve at refused
  split at refused
  · cases refused
    rfl
  · cases refused

/-! ## Operations -/

theorem root_syncBuffer (w : Workspace) (file : Path) (text : String) :
    (w.syncBuffer file text).root = w.root := by
  unfold syncBuffer
  split <;> rfl

theorem disk_syncBuffer (w : Workspace) (file : Path) (text : String) :
    (w.syncBuffer file text).disk = w.disk := by
  unfold syncBuffer
  split <;> rfl

theorem spares_syncBuffer (w : Workspace) (file : Path) (text : String) :
    (w.syncBuffer file text).disk.Spares w.disk written := by
  rw [disk_syncBuffer]
  exact .refl w.disk written

theorem within_readText (path : String) :
    w.Within written (fun _ => True) ((readText path).run.run w) := by
  rw [run_readText]
  split
  · rename_i fault refused
    exact .failed (isInternal_of_resolve refused) rfl (.refl w.disk written)
  · rename_i file resolved
    split
    · exact .failed (isInternal_ofFileError path _) rfl (.refl w.disk written)
    · exact .completed trivial (w.root_syncBuffer file _) (w.spares_syncBuffer file _)

theorem within_openFile (path : String) :
    w.Within written (fun d => d.path = path ∧ w.resolve path = .ok d.file)
      ((openFile path).run.run w) := by
  rw [run_openFile]
  split
  · rename_i fault refused
    exact .failed (isInternal_of_resolve refused) rfl (.refl w.disk written)
  · rename_i file resolved
    split
    · exact .failed (isInternal_ofFileError path _) rfl (.refl w.disk written)
    · exact .completed ⟨rfl, resolved⟩ rfl (.refl w.disk written)

theorem within_writeFile (path text : String)
    (inside : ∀ file, w.resolve path = .ok file → written file) :
    w.Within written (fun _ => True) ((writeFile path text).run.run w) := by
  rw [run_writeFile]
  split
  · rename_i fault refused
    exact .failed (isInternal_of_resolve refused) rfl (.refl w.disk written)
  · rename_i file resolved
    have made := Tree.Spares.makeDirectories w.disk written file.dropLast
    split
    · rename_i disk e stuck
      rw [stuck] at made
      exact .failed (isInternal_ofFileError path e) rfl made
    · rename_i disk reached
      rw [reached] at made
      split
      · rename_i e unwritten
        exact .failed (isInternal_ofFileError path e) rfl made
      · rename_i later wrote
        have spares := (Tree.Spares.write (inside file resolved) wrote).trans made
        split
        · exact .completed trivial rfl spares
        · exact .completed trivial rfl spares

theorem within_listDirectory (path : String) :
    w.Within written (fun _ => True) ((listDirectory path).run.run w) := by
  refine .still (w.run_listDirectory_state path) (fun _ _ => trivial) ?_
  unfold listDirectory
  simp only [run_bind, run_locate, run_get]
  intro fault failed
  cases resolved : w.resolve path with
  | error refusal =>
      simp only [resolved] at failed
      cases failed
      exact isInternal_of_resolve resolved
  | ok file =>
      simp only [resolved] at failed
      split at failed
      · cases failed
      · cases failed
        exact isInternal_ofFileError path _

theorem within_search (pattern : String) :
    w.Within written (fun _ => True) ((search pattern).run.run w) := by
  refine .still (w.run_search_state pattern) (fun _ _ => trivial) ?_
  unfold search
  intro fault failed
  split at failed
  · cases failed
  · cases failed
    rfl

end Workspace

namespace Document

open Workspace

variable {w : Workspace} {written : Path → Prop} (d : Document)

theorem within_textIn (range : Edit.Range) :
    w.Within written (fun _ => True) ((d.textIn range).run.run w) := by
  rw [run_textIn]
  split
  · exact .completed trivial rfl (.refl w.disk written)
  · exact .failed rfl rfl (.refl w.disk written)

theorem within_refresh : w.Within written (fun _ => True) (d.refresh.run.run w) := by
  rw [run_refresh]
  split
  · exact .completed trivial (w.root_syncBuffer d.file _) (w.spares_syncBuffer d.file _)
  · exact .completed trivial rfl (.refl w.disk written)
  · exact .failed (isInternal_ofFileError d.path _) rfl (.refl w.disk written)

theorem within_finish (inside : written d.file) (outcome : Except Position (Option Buffer)) :
    w.Within written (fun _ => True) (d.finish w outcome) := by
  unfold finish
  split
  · exact .failed rfl rfl (.refl w.disk written)
  · exact .completed trivial rfl (.refl w.disk written)
  · split
    · exact .failed (isInternal_ofFileError d.path _) rfl (.refl w.disk written)
    · rename_i disk wrote
      exact .completed trivial rfl (.write inside wrote)

theorem within_change (inside : written d.file) (c : Change) :
    w.Within written (fun _ => True) ((d.change c).run.run w) := by
  have refreshed : w.Within written (fun _ => True) (d.refresh.run.run w) := d.within_refresh
  rw [run_change]
  rcases ran : d.refresh.run.run w with ⟨fault | done, u⟩
  · rw [ran] at refreshed
    exact refreshed
  · rw [ran] at refreshed
    have finished := d.within_finish (w := u) inside ((d.buffer u).change c)
    exact ⟨finished.root.trans refreshed.root, finished.disk.trans refreshed.disk,
      finished.post, finished.plain⟩

end Document

end ReplyScript
