import ReplyScript.Proofs.Workspace.Operations
import ReplyScript.World.Service

/-! # Operations on the world

What each service comes to, in one equation. A call that is made to fail does nothing but use up the
fault.
-/

namespace ReplyScript

open Effect

namespace World

variable (w : World)

/-- The fault that the next call of a service comes to. -/
def fault? (service : Service) : Option Fault :=
  (w.faults service).head?.join

/-- The world after a service was called on a subject. -/
def called (service : Service) (subject : String) : World :=
  ((w.record (.called service subject)).takeFault service).2

theorem run_call (service : Service) (subject : String) :
    (call service subject).run.run w = match w.fault? service with
      | some fault => (.error fault, w.called service subject)
      | none => (.ok (), w.called service subject) := by
  unfold call fault? called
  simp only [run_bind, run_modify, run_get, run_set]
  have next : ((w.record (.called service subject)).takeFault service).1
      = (w.faults service).head?.join := by
    unfold takeFault
    cases faults : w.faults service with
    | nil => simp [record, faults]
    | cons fault rest => simp [record, faults]
  rw [next]
  cases (w.faults service).head?.join <;> rfl

section

variable (service : Service) (subject : String)

@[simp]
theorem workspace_called : (w.called service subject).workspace = w.workspace := by
  unfold called takeFault
  split <;> rfl

@[simp]
theorem clipboard_called : (w.called service subject).clipboard = w.clipboard := by
  unfold called takeFault
  split <;> rfl

end

theorem run_inWorkspace (op : WorkspaceM α) :
    (inWorkspace op).run.run w
      = ((op.run.run w.workspace).1, { w with workspace := (op.run.run w.workspace).2 }) := by
  unfold inWorkspace
  simp only [run_bind, run_get]
  rcases op.run.run w.workspace with ⟨fault | a, workspace⟩ <;> rfl

theorem run_called (service : Service) (subject : String) (op : WorkspaceM α) :
    (do call service subject; inWorkspace op : WorldM α).run.run w = match w.fault? service with
      | some fault => (.error fault, w.called service subject)
      | none => ((op.run.run w.workspace).1,
          { w.called service subject with workspace := (op.run.run w.workspace).2 }) := by
  rw [run_bind, run_call]
  cases w.fault? service with
  | some fault => rfl
  | none =>
      simp only [run_inWorkspace, workspace_called]

theorem run_readText (path : String) :
    (readText path).run.run w = match w.fault? .read with
      | some fault => (.error fault, w.called .read path)
      | none => (((Workspace.readText path).run.run w.workspace).1, { w.called .read path with
          workspace := ((Workspace.readText path).run.run w.workspace).2 }) :=
  w.run_called .read path _

theorem run_writeFile (path text : String) :
    (writeFile path text).run.run w = match w.fault? .write with
      | some fault => (.error fault, w.called .write path)
      | none => (((Workspace.writeFile path text).run.run w.workspace).1,
          { w.called .write path with
            workspace := ((Workspace.writeFile path text).run.run w.workspace).2 }) :=
  w.run_called .write path _

theorem run_openFile (path : String) :
    (openFile path).run.run w = match w.fault? .openFile with
      | some fault => (.error fault, w.called .openFile path)
      | none => (((Workspace.openFile path).run.run w.workspace).1,
          { w.called .openFile path with
            workspace := ((Workspace.openFile path).run.run w.workspace).2 }) :=
  w.run_called .openFile path _

theorem run_readClipboard :
    readClipboard.run.run w = match w.fault? .readClipboard with
      | some fault => (.error fault, w.called .readClipboard "")
      | none => (.ok w.clipboard, w.called .readClipboard "") := by
  unfold readClipboard
  rw [run_bind, run_call]
  cases w.fault? .readClipboard with
  | some fault => rfl
  | none =>
      simp only [run_bind, run_get, run_pure, clipboard_called]

theorem run_writeClipboard (text : String) :
    (writeClipboard text).run.run w = match w.fault? .writeClipboard with
      | some fault => (.error fault, w.called .writeClipboard text)
      | none => (.ok (), { w.called .writeClipboard text with clipboard := text }) := by
  unfold writeClipboard
  rw [run_bind, run_call]
  cases w.fault? .writeClipboard <;> rfl

/-! ## Services that leave the workspace alone -/

theorem workspace_listDirectory (path : String) :
    ((listDirectory path).run.run w).2.workspace = w.workspace := by
  unfold listDirectory
  rw [run_called, Workspace.run_listDirectory_state]
  cases w.fault? .list <;> simp

theorem workspace_search (query : String) :
    ((search query).run.run w).2.workspace = w.workspace := by
  unfold search
  rw [run_called, Workspace.run_search_state]
  cases w.fault? .search <;> simp

theorem workspace_readClipboard : (readClipboard.run.run w).2.workspace = w.workspace := by
  rw [run_readClipboard]
  cases w.fault? .readClipboard <;> simp

theorem workspace_writeClipboard (text : String) :
    ((writeClipboard text).run.run w).2.workspace = w.workspace := by
  rw [run_writeClipboard]
  cases w.fault? .writeClipboard <;> simp

theorem workspace_diagnose (path : String) :
    ((diagnose path).run.run w).2.workspace = w.workspace := by
  unfold diagnose
  rw [run_bind, run_call]
  cases w.fault? .diagnostics with
  | some fault => simp
  | none => exact w.workspace_called .diagnostics path

theorem workspace_inWorkspace_of_still {op : WorkspaceM α} (still : ∀ w, (op.run.run w).2 = w) :
    ((inWorkspace op).run.run w).2.workspace = w.workspace := by
  rw [run_inWorkspace, still]

theorem workspace_runCommand (command : String) :
    ∃ disk, ((runCommand command).run.run w).2.workspace = { w.workspace with disk } := by
  unfold runCommand
  rw [run_bind, run_call]
  cases w.fault? .terminal with
  | some fault => exact ⟨w.workspace.disk, w.workspace_called .terminal command⟩
  | none =>
      simp only [run_bind, run_modify, run_get]
      have same : ((w.called .terminal command).record (.ran command)).workspace = w.workspace :=
        w.workspace_called .terminal command
      cases ((w.called .terminal command).record (.ran command)).terminal with
      | scripted answers =>
          refine ⟨w.workspace.disk, ?_⟩
          cases answers <;> exact same
      | program run =>
          simp only [same]
          cases w.workspace.disk.list w.workspace.root with
          | error e => exact ⟨w.workspace.disk, same⟩
          | ok entries => exact ⟨_, rfl⟩

theorem workspace_confirm (command : String) : (w.confirm command).2.workspace = w.workspace := by
  unfold confirm
  split
  · rfl
  · rfl
  · simp only
    split <;> rfl

end World

end ReplyScript
