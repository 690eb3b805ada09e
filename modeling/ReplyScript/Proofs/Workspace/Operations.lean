import ReplyScript.Proofs.Edit.Change
import ReplyScript.Proofs.Effect
import ReplyScript.Workspace.Desk
import ReplyScript.Workspace.Search

/-! # Operations of workspaces

What each operation comes to, in one equation: its result, and the workspace it leaves.
-/

namespace ReplyScript

open Disk (Path Tree)
open Edit (Position Buffer Change)
open Effect

namespace Workspace

variable (w : Workspace) (file : Path)

@[simp]
theorem buffer?_setBuffer (b : Buffer) (f : Path) :
    (w.setBuffer file b).buffer? f = if f = file then some b else w.buffer? f :=
  Keyed.lookup_put file b w.buffers f

@[simp]
theorem setBuffer_setBuffer (first second : Buffer) :
    (w.setBuffer file first).setBuffer file second = w.setBuffer file second := by
  simp only [setBuffer, Keyed.put_put]

@[simp]
theorem disk_setBuffer (b : Buffer) : (w.setBuffer file b).disk = w.disk :=
  rfl

theorem syncBuffer_held {w : Workspace} {file : Path} {b : Buffer} (held : w.buffer? file = some b)
    (text : String) : w.syncBuffer file text = w.setBuffer file (b.sync text) := by
  unfold syncBuffer
  rw [held]

theorem run_locate (path : String) : (locate path).run.run w = (w.resolve path, w) := by
  unfold locate
  simp only [run_bind, run_get]
  cases w.resolve path <;> rfl

theorem run_readText (path : String) :
    (readText path).run.run w = match w.resolve path with
      | .error fault => (.error fault, w)
      | .ok file => match w.disk.readText file with
        | .error e => (.error (.ofFileError path e), w)
        | .ok text => (.ok text, w.syncBuffer file text) := by
  unfold readText
  simp only [run_bind, run_locate, run_get]
  cases w.resolve path with
  | error fault => rfl
  | ok file =>
      simp only [load]
      cases w.disk.readText file <;> rfl

theorem run_openFile (path : String) :
    (openFile path).run.run w = match w.resolve path with
      | .error fault => (.error fault, w)
      | .ok file => match w.disk.readText file with
        | .error e => (.error (.ofFileError path e), w)
        | .ok text => (.ok ⟨path, file, .caret ⟨0, 0⟩⟩,
            w.setBuffer file (((w.buffer? file).getD (.ofText text)).sync text)) := by
  unfold openFile
  simp only [run_bind, run_locate, run_get]
  cases w.resolve path with
  | error fault => rfl
  | ok file =>
      simp only [load]
      cases w.disk.readText file with
      | error e => rfl
      | ok text =>
          simp only [run_bind, run_set, run_pure]
          cases held : w.buffer? file with
          | some b => simp [syncBuffer_held held]
          | none => simp [syncBuffer, held, Buffer.sync]

theorem run_listDirectory_state (path : String) : ((listDirectory path).run.run w).2 = w := by
  unfold listDirectory
  simp only [run_bind, run_locate, run_get]
  cases w.resolve path with
  | error fault => rfl
  | ok file =>
      simp only
      cases w.disk.list file <;> rfl

theorem run_search_state (pattern : String) : ((search pattern).run.run w).2 = w := by
  unfold search
  cases Pattern.Machine.ofPattern { ignoreCase := true } pattern <;> rfl

theorem run_writeDisk (path text : String) :
    (writeDisk path file text).run.run w = match w.disk.write file (.text text) with
      | .error e => (.error (.ofFileError path e), w)
      | .ok disk => (.ok (), { w with disk }) := by
  unfold writeDisk
  simp only [run_bind, run_get]
  cases w.disk.write file (.text text) <;> rfl

theorem run_writeFile (path text : String) :
    (writeFile path text).run.run w = match w.resolve path with
      | .error fault => (.error fault, w)
      | .ok file => match w.disk.makeDirectories file.dropLast with
        | (disk, some e) => (.error (.ofFileError path e), { w with disk })
        | (disk, none) => match disk.write file (.text text) with
          | .error e => (.error (.ofFileError path e), { w with disk })
          | .ok disk => (.ok (), if (w.buffer? file).isSome
              then { w with disk }.setBuffer file (.ofText text) else { w with disk }) := by
  unfold writeFile
  simp only [run_bind, run_locate, run_get]
  cases w.resolve path with
  | error fault => rfl
  | ok file =>
      simp only [run_modify]
      rcases w.disk.makeDirectories file.dropLast with ⟨disk, _ | e⟩
      · simp only [run_bind, run_writeDisk]
        cases disk.write file (.text text) <;> rfl
      · rfl

end Workspace

namespace Document

variable (d : Document) (w : Workspace)

theorem run_textIn (range : Edit.Range) :
    (d.textIn range).run.run w = match (d.buffer w).textIn range with
      | .ok text => (.ok text, w)
      | .error p => (.error (d.outOfRange w p), w) := by
  unfold textIn
  simp only [run_bind, run_get]
  cases (d.buffer w).textIn range <;> rfl

theorem run_textIn_state (range : Edit.Range) : ((d.textIn range).run.run w).2 = w := by
  rw [run_textIn]
  cases (d.buffer w).textIn range <;> rfl

theorem run_lineText (line : Nat) :
    (d.lineText line).run.run w = match (d.buffer w).lines[line]? with
      | some text => (.ok text, w)
      | none => (.error (d.outOfRange w ⟨line, 0⟩), w) := by
  unfold lineText
  simp only [run_bind, run_get]
  cases (d.buffer w).lines[line]? <;> rfl

/-- What is left to do once the buffer has been changed, or could not be. -/
def finish : Except Position (Option Buffer) → Except Fault Unit × Workspace
  | .error p => (.error (d.outOfRange w p), w)
  | .ok none => (.ok (), w)
  | .ok (some b) =>
      match w.disk.write d.file (.text b.text) with
      | .error e => (.error (.ofFileError d.path e), w.setBuffer d.file b)
      | .ok disk => (.ok (), { w.setBuffer d.file b with disk })

theorem run_refresh :
    d.refresh.run.run w = match w.disk.readText d.file with
      | .ok text => (.ok (), w.syncBuffer d.file text)
      | .error .notFound => (.ok (), w)
      | .error e => (.error (.ofFileError d.path e), w) := by
  unfold refresh
  simp only [run_bind, run_get, Workspace.load]
  rcases w.disk.readText d.file with e | text
  · cases e <;> rfl
  · rfl

theorem buffer_setBuffer (b : Buffer) : d.buffer (w.setBuffer d.file b) = b := by
  simp [buffer, Workspace.buffer]

theorem run_become (b : Buffer) : (d.become b).run.run w = d.finish w (.ok (some b)) := by
  unfold become save finish
  simp only [run_bind, run_modify, run_get, Workspace.run_writeDisk, buffer_setBuffer,
    Workspace.disk_setBuffer]
  cases w.disk.write d.file (.text b.text) <;> rfl

theorem run_replace (range : Edit.Range) (text : String) :
    (d.replace range text).run.run w = match d.refresh.run.run w with
      | (.error fault, w) => (.error fault, w)
      | (.ok (), w) => d.finish w (some <$> (d.buffer w).replace range text) := by
  unfold replace
  simp only [run_bind, run_get]
  rcases d.refresh.run.run w with ⟨fault | ⟨⟩, w⟩
  · rfl
  · simp only
    cases (d.buffer w).replace range text with
    | error p => rfl
    | ok b => exact d.run_become w b

theorem run_turn (version : Buffer → Option Buffer) :
    (d.turn version).run.run w = match d.refresh.run.run w with
      | (.error fault, w) => (.error fault, w)
      | (.ok (), w) => d.finish w (.ok (version (d.buffer w))) := by
  unfold turn
  simp only [run_bind, run_get]
  rcases d.refresh.run.run w with ⟨fault | ⟨⟩, w⟩
  · rfl
  · simp only
    cases version (d.buffer w) with
    | none => rfl
    | some b => exact d.run_become w b

theorem run_change (c : Change) :
    (d.change c).run.run w = match d.refresh.run.run w with
      | (.error fault, w) => (.error fault, w)
      | (.ok (), w) => d.finish w ((d.buffer w).change c) := by
  cases c with
  | insert p text => exact d.run_replace w (.caret p) text
  | replace range text => exact d.run_replace w range text
  | delete range => exact d.run_replace w range ""
  | undo => exact d.run_turn w Buffer.undo?
  | redo => exact d.run_turn w Buffer.redo?

end Document

end ReplyScript
