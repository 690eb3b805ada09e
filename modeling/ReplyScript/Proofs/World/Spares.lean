import ReplyScript.Proofs.Workspace.Spares
import ReplyScript.Proofs.World.Faults

/-! # Services that spare a file

What services of the workspace leave of the history of a file, and what they tell about the file
that they open.
-/

namespace ReplyScript

open Disk (Path)
open Edit (Change)

variable {file : Path} {α : Type}

namespace World

variable {w : World}

/-- A file that is there is spared by the service. -/
def Keeps (file : Path) (op : WorldM α) (w : World) : Prop :=
  w.workspace.Has file → (op.run.run w).2.workspace.Spares file w.workspace

theorem keeps_still {op : WorldM α} (still : (op.run.run w).2.workspace = w.workspace) :
    Keeps file op w := by
  intro has
  rw [still]
  exact .refl has.toOrderly

theorem keeps_called {service : Service} {subject : String} {op : WorkspaceM α}
    (spares : w.fault? service = none → w.workspace.Has file →
      (op.run.run w.workspace).2.Spares file w.workspace) :
    Keeps file (do call service subject; inWorkspace op) w := by
  intro has
  rw [run_called]
  cases fault : w.fault? service with
  | some fault =>
      simp only [workspace_called]
      exact .refl has.toOrderly
  | none => exact spares fault has

theorem keeps_readText (path : String) : Keeps file (readText path) w :=
  keeps_called fun _ has => .readText has.toOrderly path

theorem keeps_openFile (path : String) : Keeps file (openFile path) w :=
  keeps_called fun _ has => .openFile has.toOrderly path

theorem keeps_writeFile {path text : String}
    (apart : w.fault? .write = none → w.workspace.resolve path ≠ .ok file) :
    Keeps file (writeFile path text) w :=
  keeps_called fun allowed has => .writeFile has (apart allowed) text

theorem keeps_change {d : Document} {c : Change} (opened : (w.workspace.buffer? d.file).isSome)
    (idle : d.file = file → ∀ b, w.workspace.Holds file b → ∀ next, b.change c ≠ .ok (some next)) :
    Keeps file (inWorkspace (d.change c)) w := by
  intro has
  rw [run_inWorkspace]
  exact Document.change_spares has opened idle

theorem root_called {service : Service} {subject : String} {op : WorkspaceM α}
    (root : (op.run.run w.workspace).2.root = w.workspace.root) :
    ((do call service subject; inWorkspace op : WorldM α).run.run w).2.workspace.root
      = w.workspace.root := by
  rw [run_called]
  cases w.fault? service with
  | some fault => simp only [workspace_called]
  | none => exact root

theorem root_openFile (w : World) (path : String) :
    ((openFile path).run.run w).2.workspace.root = w.workspace.root :=
  root_called (w.workspace.root_openFile path)

theorem root_writeFile (w : World) (path text : String) :
    ((writeFile path text).run.run w).2.workspace.root = w.workspace.root :=
  root_called (w.workspace.root_writeFile path text)

theorem fault?_called_other {service other : Service} (w : World) (subject : String)
    (apart : other ≠ service) : (w.called service subject).fault? other = w.fault? other := by
  unfold called takeFault fault?
  split
  · rfl
  · simp only [record, if_neg apart]

theorem inWorkspace_of_completed {op : WorkspaceM α} {a : α} {workspace : Workspace}
    (ran : op.run.run w.workspace = (.ok a, workspace)) :
    (inWorkspace op).run.run w = (.ok a, { w with workspace }) := by
  rw [run_inWorkspace, ran]

theorem openFile_completed {path : String} {d : Document} {u : World}
    (ran : (openFile path).run.run w = (.ok d, u)) :
    w.workspace.resolve path = .ok d.file ∧ (u.workspace.buffer? d.file).isSome := by
  rw [run_openFile, Workspace.run_openFile] at ran
  split at ran
  · cases ran
  · split at ran
    · cases ran
    · rename_i found resolved
      split at ran
      · cases ran
      · cases ran
        refine ⟨resolved, ?_⟩
        simp only [Workspace.buffer?_setBuffer, if_pos, Option.isSome_some]

/-! ## Files that are opened and written -/

/-- What a service was asked to write is in the file that the path leads to. -/
theorem Unfailing.writeFile_completed (unfailing : w.Unfailing) {u : World} {path text : String}
    {file : Path} (resolved : w.workspace.resolve path = .ok file)
    (ran : (writeFile path text).run.run w = (.ok (), u)) :
    ((Workspace.writeFile path text).run.run w.workspace).1 = .ok () ∧ u.Unfailing
      ∧ u.workspace.disk.readText file = .ok text := by
  obtain ⟨after, called, workspace, works, -⟩ :=
    unfailing.run_called .write path (Workspace.writeFile path text)
  obtain ⟨result, rfl⟩ := Prod.mk.inj (ran.symm.trans called)
  refine ⟨result.symm, works, ?_⟩
  rw [workspace]
  exact Workspace.writeFile_completed resolved (Prod.ext result.symm rfl)

theorem Unfailing.openFile_readable (unfailing : w.Unfailing) {path : String} {file : Path}
    {text : String} (resolved : w.workspace.resolve path = .ok file)
    (readable : w.workspace.disk.readText file = .ok text) :
    ∃ d u, (openFile path).run.run w = (.ok d, u) := by
  obtain ⟨after, called, -⟩ := unfailing.run_called .openFile path (Workspace.openFile path)
  obtain ⟨u, opened⟩ := Workspace.openFile_readable resolved readable
  rw [opened] at called
  exact ⟨_, _, called⟩

theorem Unfailing.openFile_missing (unfailing : w.Unfailing) {path : String} {file : Path}
    (resolved : w.workspace.resolve path = .ok file)
    (missing : w.workspace.disk.readText file = .error .notFound) :
    ∃ u : World, (openFile path).run.run w = (.error (.notFound path), u)
      ∧ u.workspace = w.workspace ∧ u.Unfailing := by
  obtain ⟨after, called, workspace, works, -⟩ :=
    unfailing.run_called .openFile path (Workspace.openFile path)
  rw [Workspace.run_openFile, resolved] at called workspace
  simp only [missing] at called workspace
  exact ⟨after, called, workspace, works⟩

theorem Unfailing.missing_of_openFile (unfailing : w.Unfailing) {u : World} {path place : String}
    (ran : (openFile path).run.run w = (.error (.notFound place), u)) :
    u.workspace = w.workspace ∧ u.Unfailing ∧ ∃ file, w.workspace.resolve path = .ok file
      ∧ w.workspace.disk.readText file = .error .notFound := by
  obtain ⟨after, called, workspace, works, -⟩ :=
    unfailing.run_called .openFile path (Workspace.openFile path)
  obtain ⟨result, rfl⟩ := Prod.mk.inj (ran.symm.trans called)
  obtain ⟨kept, missing⟩ := Workspace.missing_of_openFile (Prod.ext result.symm rfl)
  exact ⟨workspace.trans kept, works, missing⟩

theorem tidy_called {α : Type} {service : Service} {subject : String} {op : WorkspaceM α}
    (tidy : w.workspace.Tidy) (tidied : (op.run.run w.workspace).2.Tidy) :
    ((do call service subject; inWorkspace op : WorldM α).run.run w).2.workspace.Tidy := by
  rw [World.run_called]
  cases w.fault? service with
  | some fault =>
      simp only [workspace_called]
      exact tidy
  | none => exact tidied

theorem tidy_openFile (tidy : w.workspace.Tidy) (path : String) :
    ((openFile path).run.run w).2.workspace.Tidy :=
  tidy_called tidy (Workspace.openFile_follows tidy path).1.tidy

theorem tidy_writeFile (tidy : w.workspace.Tidy) (path text : String) :
    ((writeFile path text).run.run w).2.workspace.Tidy :=
  tidy_called tidy (Workspace.Follows.writeFile tidy path text).tidy

theorem openFile_fresh {u : World} {path : String} {d : Document} (tidy : w.workspace.Tidy)
    (ran : (openFile path).run.run w = (.ok d, u)) :
    w.workspace.resolve path = .ok d.file ∧ u.workspace.disk = w.workspace.disk
      ∧ ∃ text, d.Fresh u.workspace text := by
  rw [run_openFile] at ran
  split at ran
  · cases ran
  · rcases opened : (Workspace.openFile path).run.run w.workspace with ⟨fault | other, workspace⟩
    · rw [opened] at ran
      cases ran
    · rw [opened] at ran
      cases ran
      exact Workspace.openFile_fresh tidy opened

end World

end ReplyScript
