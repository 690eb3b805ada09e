import ReplyScript.Proofs.Session.Spares

/-! # Completed edits

A completed edit makes a new version of the file that it names. The version before it is then the
latest in the past of the file, and the file is that of the active document. Main statement:
`Action.edited`.
-/

namespace ReplyScript

open Disk (Path)
open Edit (Buffer Change Position Range)
open Effect Scene

/-- The action is an edit of the file. A cut is one only of the file of the active document. -/
def Action.Edits (file : Path) (a : Action) (s : Scene) : Prop :=
  match a with
  | .input path _ _ => s.world.workspace.resolve path = .ok file ∧ ¬ s.CreatesOpened
  | .replace path _ _ | .paste path _ => s.world.workspace.resolve path = .ok file
  | .cut path _ => s.world.workspace.resolve path = .ok file
      ∧ s.session.active.map Document.file = some file
  | _ => False

/-- The file has a new version since an earlier scene, and is that of the active document. -/
structure Scene.Edited (file : Path) (s earlier : Scene) : Prop where
  active : s.session.active.map Document.file = some file
  made : ∀ b, earlier.world.workspace.Holds file b → ∃ next, s.world.workspace.Stores file next
    ∧ next.past = b.lines :: b.past ∧ next.future = []

variable {file : Path} {s t u : Scene}

/-! ## Changes -/

/-- The change puts a text in place of a range. -/
def Edit.Change.Replaces (c : Change) : Prop :=
  ∀ b : Buffer, ∃ range text, b.change c = some <$> b.replace range text

theorem history_of_replaces {c : Change} {b : Buffer} {made : Option Buffer}
    (replaces : c.Replaces) (changed : b.change c = .ok made) :
    ∃ next, made = some next ∧ next.past = b.lines :: b.past ∧ next.future = [] := by
  obtain ⟨range, text, same⟩ := replaces b
  rw [same] at changed
  cases replaced : b.replace range text with
  | error p =>
      rw [replaced] at changed
      cases changed
  | ok next =>
      rw [replaced] at changed
      cases changed
      obtain ⟨joined, -, rfl⟩ := Buffer.of_replace replaced
      exact ⟨_, rfl, rfl, rfl⟩

theorem change_of_completed {d : Document} {w after : Workspace} {c : Change} {b : Buffer}
    (opened : (w.buffer? d.file).isSome) (holds : w.Holds d.file b)
    (ran : (d.change c).run.run w = (.ok (), after)) : ∃ made, b.change c = .ok made := by
  rw [Document.run_change_held opened holds] at ran
  cases changed : b.change c with
  | error p =>
      rw [changed] at ran
      cases ran
  | ok made => exact ⟨made, rfl⟩

theorem edited_of_change {d : Document} {c : Change} {i : Instruction} (replaces : c.Replaces)
    (opened : (s.world.workspace.buffer? d.file).isSome)
    (active : s.session.active.map Document.file = some d.file)
    (ran : (demand i (World.inWorkspace (d.change c))).run.run s = (.ok (), t)) :
    t.Edited d.file s := by
  obtain ⟨world, changes, rfl⟩ := demand_completed ran
  refine ⟨active, ?_⟩
  intro b holds
  rw [World.run_inWorkspace] at changes
  rcases done : (d.change c).run.run s.world.workspace with ⟨fault | finished, after⟩
  · rw [done] at changes
    cases changes
  · rw [done] at changes
    cases changes
    obtain ⟨made, changed⟩ := change_of_completed opened holds done
    obtain ⟨next, rfl, past, future⟩ := history_of_replaces replaces changed
    obtain ⟨u, ran, stored⟩ := Document.change_made opened holds changed
    rw [done] at ran
    cases ran
    exact ⟨next, stored, past, future⟩

/-- Whatever spared the file before it was edited does not count. -/
theorem Scene.Edited.after {u : Scene} (edited : u.Edited file t)
    (spares : t.world.workspace.Spares file s.world.workspace) : u.Edited file s :=
  ⟨edited.active, fun b holds => edited.made b (spares.kept b holds)⟩

theorem Scene.Edited.of_same {u : Scene} (edited : t.Edited file s)
    (active : u.session.active = t.session.active)
    (workspace : u.world.workspace = t.world.workspace) : u.Edited file s where
  active := by
    rw [active]
    exact edited.active
  made := by
    rw [workspace]
    exact edited.made

theorem Keeps.spares {α : Type} {op : SceneM α} {result : Except CommandError α}
    (keeps : Keeps file op s) (has : s.world.workspace.Has file)
    (ran : op.run.run s = (result, t)) :
    t.world.workspace.Spares file s.world.workspace := by
  have spared := keeps has
  rw [ran] at spared
  exact spared

theorem active_file {d : Document} (active : s.session.active = some d) :
    s.session.active.map Document.file = some d.file := by
  rw [active]
  rfl

/-! ## Actions -/

section

variable (has : s.world.workspace.Has file) {path : String} {range : Range} {position : Position}
  {text : String}

include has

theorem replace_edited (resolved : s.world.workspace.resolve path = .ok file)
    (completed : (performReplace path range text).run.run s = (.ok (), t)) : t.Edited file s := by
  obtain ⟨d, u, opens, rest⟩ := bind_completed completed
  obtain ⟨found, opened⟩ := demand_openFile_completed opens
  have spares := (keeps_demand (World.keeps_openFile path)).spares has opens
  obtain rfl := Except.ok.inj (found.symm.trans resolved)
  obtain ⟨done, v, activates, changes⟩ := bind_completed rest
  obtain ⟨same, active⟩ := activate_completed activates
  rw [← same] at opened spares
  have edited := edited_of_change (c := .replace range text) (fun b => ⟨range, text, rfl⟩) opened
    (active_file active) changes
  exact edited.after spares

theorem input_edited (resolved : s.world.workspace.resolve path = .ok file)
    (existing : ¬ s.CreatesOpened)
    (completed : (performInput path position text).run.run s = (.ok (), t)) : t.Edited file s := by
  obtain ⟨d, u, opens, rest⟩ := bind_completed completed
  obtain ⟨found, opened⟩ := openForInput_completed opens
  have spares := (keeps_openForInput fun _ => existing).spares has opens
  obtain rfl := Except.ok.inj (found.symm.trans resolved)
  obtain ⟨done, v, activates, rest⟩ := bind_completed rest
  obtain ⟨same, active⟩ := activate_completed activates
  rw [← same] at opened spares
  obtain ⟨made, w, changes, rest⟩ := bind_completed rest
  have edited := edited_of_change (d := { d with selection := .caret position })
    (c := .insert position text) (fun b => ⟨.caret position, text, rfl⟩) opened
    (active_file active) changes
  obtain ⟨window, x, shows, tells⟩ := bind_completed rest
  have still := demand_still (w.world.workspace_inWorkspace_of_still
    (run_insertionWindow_state _ position.line text)) shows
  obtain ⟨world, -, rfl⟩ := demand_completed shows
  have left : t.session.active = w.session.active ∧ t.world.workspace = w.world.workspace := by
    cases tells
    exact ⟨rfl, still⟩
  exact (edited.of_same left.1 left.2).after spares

theorem cut_edited (resolved : s.world.workspace.resolve path = .ok file)
    (active : s.session.active.map Document.file = some file)
    (completed : (performCut path range).run.run s = (.ok (), t)) : t.Edited file s := by
  obtain ⟨other, u, begun, rest⟩ := bind_completed completed
  obtain ⟨-, rfl⟩ := activeDocument_completed begun
  obtain ⟨d, v, copies, changes⟩ := bind_completed rest
  obtain ⟨found, opened⟩ := copyRange_completed copies
  have spares := (keeps_copyRange .cut path range).spares has copies
  have same := quiet_copyRange .cut path range u
  rw [copies] at same
  obtain rfl := Except.ok.inj (found.symm.trans resolved)
  rw [← same] at active
  have edited := edited_of_change (c := .delete range) (fun b => ⟨range, "", rfl⟩) opened active
    changes
  exact edited.after spares

theorem paste_edited (resolved : s.world.workspace.resolve path = .ok file)
    (completed : (performPaste path position).run.run s = (.ok (), t)) : t.Edited file s := by
  obtain ⟨other, u, begun, rest⟩ := bind_completed completed
  obtain ⟨-, rfl⟩ := activeDocument_completed begun
  obtain ⟨d, v, opens, rest⟩ := bind_completed rest
  obtain ⟨found, opened⟩ := demand_openFile_completed opens
  have spares := (keeps_demand (World.keeps_openFile path)).spares has opens
  obtain rfl := Except.ok.inj (found.symm.trans resolved)
  obtain ⟨text, w, reads, rest⟩ := bind_completed rest
  have still := demand_still v.world.workspace_readClipboard reads
  rw [← still] at opened spares
  obtain ⟨done, x, activates, changes⟩ := bind_completed rest
  obtain ⟨same, active⟩ := activate_completed activates
  rw [← same] at opened spares
  have edited := edited_of_change (c := .insert position text)
    (fun b => ⟨.caret position, text, rfl⟩) opened (active_file active) changes
  exact edited.after spares

/-- A completed edit of a file makes a new version of it. -/
theorem Action.edited {a : Action} (edits : a.Edits file s)
    (completed : a.perform.run.run s = (.ok (), t)) : t.Edited file s := by
  cases a with
  | input path position text => exact input_edited has edits.1 edits.2 completed
  | replace path range text => exact replace_edited has edits completed
  | cut path range => exact cut_edited has edits.1 edits.2 completed
  | paste path position => exact paste_edited has edits completed
  | _ => exact absurd edits id

end

end ReplyScript
