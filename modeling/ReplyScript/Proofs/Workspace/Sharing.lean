import ReplyScript.Proofs.Workspace.Cells
import ReplyScript.Proofs.Workspace.Spelling

/-! # One buffer for a file

Handles on one file share its buffer, by whatever spellings of a path they were opened and whatever
happens to the file. What is done through one of them, or by the path, is seen through all. Main
statement: `CellDesk.run_shares`.
-/

namespace ReplyScript

open Disk (Path Tree)
open Edit (Position Buffer Change)

/-! ## What operations make of an open file -/

namespace Workspace

variable {w : Workspace} {file : Path} {b : Buffer} {path text : String}

theorem buffer?_writeFile (held : w.buffer? file = some b) (resolved : w.resolve path = .ok file)
    (completed : ((writeFile path text).run.run w).1 = .ok ()) :
    ((writeFile path text).run.run w).2.buffer? file = some (.ofText text) := by
  rw [run_writeFile, resolved] at completed ⊢
  simp only at completed ⊢
  rcases directories : w.disk.makeDirectories file.dropLast with ⟨disk, _ | e⟩
  · simp only [directories] at completed ⊢
    cases written : disk.write file (.text text) with
    | error e =>
        rw [written] at completed
        cases completed
    | ok disk => simp [held]
  · rw [directories] at completed
    cases completed

theorem buffer?_readText (held : w.buffer? file = some b) (resolved : w.resolve path = .ok file)
    (completed : ((readText path).run.run w).1 = .ok text) :
    ((readText path).run.run w).2.buffer? file = some (b.sync text) := by
  rw [run_readText, resolved] at completed ⊢
  cases readable : w.disk.readText file with
  | error e =>
      simp only [readable] at completed
      cases completed
  | ok onDisk =>
      simp only [readable] at completed ⊢
      cases completed
      rw [syncBuffer_held held, buffer?_setBuffer, if_pos rfl]

theorem buffer?_openFile {d : Document} (held : w.buffer? file = some b)
    (resolved : w.resolve path = .ok file) (completed : ((openFile path).run.run w).1 = .ok d) :
    ∃ text, w.disk.readText file = .ok text
      ∧ ((openFile path).run.run w).2.buffer? file = some (b.sync text) := by
  rw [run_openFile, resolved] at completed ⊢
  cases readable : w.disk.readText file with
  | error e =>
      simp only [readable] at completed
      cases completed
  | ok text =>
      refine ⟨text, rfl, ?_⟩
      simp only [readable, held, Option.getD_some, buffer?_setBuffer, if_true]

end Workspace

/-- The buffer of a file when a change is made to it. A file that is gone leaves the buffer as it
is. -/
def refreshed (disk : Tree) (file : Path) (b : Buffer) : Buffer :=
  match disk.readText file with
  | .ok text => b.sync text
  | .error _ => b

namespace Document

variable {d : Document} {w u : Workspace} {b : Buffer} {c : Change}

theorem buffer?_refresh (held : w.buffer? d.file = some b)
    (completed : d.refresh.run.run w = (.ok (), u)) :
    u.buffer? d.file = some (refreshed w.disk d.file b) := by
  rw [run_refresh] at completed
  unfold refreshed
  cases readable : w.disk.readText d.file with
  | error e =>
      rw [readable] at completed
      cases e <;> cases completed
      exact held
  | ok text =>
      rw [readable] at completed
      cases completed
      rw [Workspace.syncBuffer_held held, Workspace.buffer?_setBuffer, if_pos rfl]

theorem buffer?_finish {outcome : Except Position (Option Buffer)}
    (held : w.buffer? d.file = some b) (completed : (d.finish w outcome).1 = .ok ()) :
    ∃ made, outcome = .ok made ∧ (d.finish w outcome).2.buffer? d.file = some (made.getD b) := by
  unfold finish at completed ⊢
  rcases outcome with p | _ | next
  · cases completed
  · exact ⟨none, rfl, held⟩
  · refine ⟨some next, rfl, ?_⟩
    have stored := Workspace.buffer?_setBuffer w d.file next d.file
    rw [if_pos rfl] at stored
    simp only at completed ⊢
    split
    · exact stored
    · exact stored

theorem buffer?_change (held : w.buffer? d.file = some b)
    (completed : ((d.change c).run.run w).1 = .ok ()) :
    ∃ made, (refreshed w.disk d.file b).change c = .ok made
      ∧ ((d.change c).run.run w).2.buffer? d.file
        = some (made.getD (refreshed w.disk d.file b)) := by
  rw [run_change] at completed ⊢
  rcases ran : d.refresh.run.run w with ⟨fault | ⟨⟩, u⟩
  · rw [ran] at completed
    cases completed
  · have upToDate := buffer?_refresh held ran
    have shown : d.buffer u = refreshed w.disk d.file b := by
      unfold buffer Workspace.buffer
      rw [upToDate, Option.getD_some]
    simp only [ran, shown] at completed ⊢
    exact buffer?_finish upToDate completed

end Document

namespace CellDesk

open CellWorkspace

/-- Handles by whatever spellings of a path share what they show, and see what is done by any. After
a file was read, by the path or by opening it once more, all show the text that was read; after a
change, what the change makes of the text on disk. -/
structure Shares (desk : CellDesk) : Prop where
  shared : ∀ d ∈ desk.handles, ∀ e ∈ desk.handles,
    desk.workspace.resolve d.path = desk.workspace.resolve e.path →
    d.cell = e.cell ∧ d.buffer desk.workspace = e.buffer desk.workspace
  written : ∀ d ∈ desk.handles, ∀ path text,
    desk.workspace.resolve path = desk.workspace.resolve d.path →
    ((writeFile path text).run.run desk.workspace).1 = .ok () →
    d.buffer (desk.step (.writes path text)).workspace = .ofText text
  read : ∀ d ∈ desk.handles, ∀ path text,
    desk.workspace.resolve path = desk.workspace.resolve d.path →
    ((readText path).run.run desk.workspace).1 = .ok text →
    d.buffer (desk.step (.reads path)).workspace = (d.buffer desk.workspace).sync text
      ∧ (d.buffer (desk.step (.reads path)).workspace).text = text
  opened : ∀ d ∈ desk.handles, ∀ path e,
    desk.workspace.resolve path = desk.workspace.resolve d.path →
    ((openFile path).run.run desk.workspace).1 = .ok e →
    e.cell = d.cell ∧ ∃ text, desk.workspace.disk.readText d.file = .ok text
      ∧ d.buffer (desk.step (.opens path)).workspace = (d.buffer desk.workspace).sync text
      ∧ (d.buffer (desk.step (.opens path)).workspace).text = text
  changed : ∀ d ∈ desk.handles, ∀ i e c, desk.handles[i]? = some e →
    desk.workspace.resolve d.path = desk.workspace.resolve e.path →
    ((e.change c).run.run desk.workspace).1 = .ok () →
    (∃ made, (refreshed desk.workspace.disk d.file (d.buffer desk.workspace)).change c = .ok made
      ∧ d.buffer (desk.step (.changes i c)).workspace
        = made.getD (refreshed desk.workspace.disk d.file (d.buffer desk.workspace)))
      ∧ ∀ text, desk.workspace.disk.readText d.file = .ok text →
        c.outcome? (d.buffer desk.workspace) text
          = some (d.buffer (desk.step (.changes i c)).workspace).text

variable {desk : CellDesk} {d : CellDocument} {path : String}

/-- What is seen through a handle is what the file has that its path leads to. -/
theorem Sound.buffer? (sound : desk.Sound) (member : d ∈ desk.handles) :
    desk.view.workspace.buffer? d.file = some (d.buffer desk.workspace) :=
  CellWorkspace.view_buffer (sound.cells d member)

theorem Sound.resolve (sound : desk.Sound) (member : d ∈ desk.handles)
    (alike : desk.workspace.resolve path = desk.workspace.resolve d.path) :
    desk.view.workspace.resolve path = .ok d.file :=
  alike.trans (sound.files d member)

theorem Sound.buffer_step (sound : desk.Sound) (happening : Happening)
    (member : d ∈ (desk.step happening).handles) {b : Buffer}
    (found : (desk.view.step happening).workspace.buffer? d.file = some b) :
    d.buffer (desk.step happening).workspace = b := by
  obtain ⟨after, same⟩ := step_keeps sound happening
  have seen := after.buffer? member
  rw [same, found] at seen
  exact (Option.some.inj seen).symm

/-- What completes with cells completes without. -/
theorem completed_view {α β : Type} {op : CellM α} {plain : WorkspaceM β} {show_ : α → β} {a : α}
    {w : CellWorkspace} (mirrors : Mirrors w op plain show_) (completed : (op.run.run w).1 = .ok a) :
    (plain.run.run w.view).1 = .ok (show_ a) := by
  rw [mirrors.same, completed]
  rfl

theorem Sound.shared (sound : desk.Sound) {e : CellDocument} (first : d ∈ desk.handles)
    (second : e ∈ desk.handles)
    (alike : desk.workspace.resolve d.path = desk.workspace.resolve e.path) : d.cell = e.cell := by
  rw [sound.files d first, sound.files e second, Except.ok.injEq] at alike
  have held := sound.cells d first
  rw [alike, sound.cells e second] at held
  exact (Option.some.inj held).symm

theorem Sound.opened (sound : desk.Sound) {e : CellDocument} (member : d ∈ desk.handles)
    (alike : desk.workspace.resolve path = desk.workspace.resolve d.path)
    (completed : ((openFile path).run.run desk.workspace).1 = .ok e) :
    e.cell = d.cell ∧ ∃ text, desk.workspace.disk.readText d.file = .ok text
      ∧ d.buffer (desk.step (.opens path)).workspace = (d.buffer desk.workspace).sync text := by
  obtain ⟨same, follows⟩ := mirrors_openFile sound.workspace path
  rcases ran : (openFile path).run.run desk.workspace with ⟨fault | f, w⟩
  · rw [ran] at completed
    cases completed
  · rw [ran] at completed same follows
    cases completed
    obtain ⟨text, readable, found⟩ := Workspace.buffer?_openFile (sound.buffer? member)
      (sound.resolve member alike) (congrArg Prod.fst same)
    obtain ⟨resolved, -, held⟩ := openFile_opens ran
    have kept := follows.kept _ _ (sound.cells d member)
    rw [alike, sound.files d member, Except.ok.injEq] at resolved
    rw [← resolved, kept, Option.some.injEq] at held
    refine ⟨held.symm, text, readable, ?_⟩
    have seen := CellWorkspace.view_buffer kept
    rw [show desk.view.workspace = desk.workspace.view from rfl, same, seen] at found
    simp only [step, ran]
    exact Option.some.inj found

theorem Sound.changed (sound : desk.Sound) {i : Nat} {e : CellDocument} {c : Change}
    (member : d ∈ desk.handles) (chosen : desk.handles[i]? = some e)
    (alike : desk.workspace.resolve d.path = desk.workspace.resolve e.path)
    (completed : ((e.change c).run.run desk.workspace).1 = .ok ()) :
    ∃ made, (refreshed desk.workspace.disk d.file (d.buffer desk.workspace)).change c = .ok made
      ∧ d.buffer (desk.step (.changes i c)).workspace
        = made.getD (refreshed desk.workspace.disk d.file (d.buffer desk.workspace)) := by
  have second := List.mem_of_getElem? chosen
  have same : e.file = d.file := by
    rw [sound.files d member, sound.files e second, Except.ok.injEq] at alike
    exact alike.symm
  have held := sound.buffer? member
  rw [← same] at held
  have mirrors := CellDocument.mirrors_change sound.workspace (sound.cells e second) c
  obtain ⟨made, changed, found⟩ :=
    Document.buffer?_change held (completed_view mirrors completed)
  have stays : d ∈ (desk.step (.changes i c)).handles := by
    simp only [step, chosen]
    exact member
  have plain : desk.view.step (.changes i c) = desk.view.after (e.toDocument.change c) := by
    have shown : desk.view.handles[i]? = some e.toDocument := by
      rw [view, List.getElem?_map, chosen]
      rfl
    simp only [Desk.step, shown]
  rw [same] at changed found
  refine ⟨made, changed, sound.buffer_step (.changes i c) stays ?_⟩
  rw [plain]
  exact found

/-- A change of a text that can be read is made to that text. -/
theorem outcome_of_made {disk : Tree} {file : Path} {b : Buffer} (wellFormed : b.WellFormed)
    {text : String} (readable : disk.readText file = .ok text) {c : Change} {made : Option Buffer}
    (changed : (refreshed disk file b).change c = .ok made) :
    c.outcome? b text = some (made.getD (refreshed disk file b)).text := by
  have upToDate : refreshed disk file b = b.sync text := by
    unfold refreshed
    rw [readable]
  rw [upToDate] at changed ⊢
  rw [← Buffer.textAfter_sync wellFormed, Buffer.textAfter, changed]
  rfl

theorem Sound.shares (sound : desk.Sound) (tidy : desk.view.workspace.Tidy) : desk.Shares where
  shared := by
    intro d first e second alike
    have same := sound.shared first second alike
    exact ⟨same, congrArg desk.workspace.buffer same⟩
  written := by
    intro d member path text alike completed
    refine sound.buffer_step (.writes path text) member ?_
    exact Workspace.buffer?_writeFile (sound.buffer? member) (sound.resolve member alike)
      (completed_view (mirrors_writeFile sound.workspace path text) completed)
  read := by
    intro d member path text alike completed
    have synced : d.buffer (desk.step (.reads path)).workspace
        = (d.buffer desk.workspace).sync text := sound.buffer_step (.reads path) member
      (Workspace.buffer?_readText (sound.buffer? member) (sound.resolve member alike)
        (completed_view (mirrors_readText sound.workspace path) completed))
    exact ⟨synced, by rw [synced, Buffer.text_sync]⟩
  opened := by
    intro d member path e alike completed
    obtain ⟨same, text, readable, synced⟩ := sound.opened member alike completed
    exact ⟨same, text, readable, synced, by rw [synced, Buffer.text_sync]⟩
  changed := by
    intro d member i e c chosen alike completed
    obtain ⟨made, changed, seen⟩ := sound.changed member chosen alike completed
    refine ⟨⟨made, changed, seen⟩, fun text readable => ?_⟩
    rw [seen]
    exact outcome_of_made (tidy.wellFormed _ _ (sound.buffer? member)) readable changed

/-- Paths are resolved inside the root and alike for all their spellings. Whatever happens, a desk
whose handles hold cells comes to the same as one whose handles name files, and handles on one file
share its buffer. -/
theorem run_shares : (∀ w : Workspace, w.ResolvesInside)
    ∧ ∀ root disk happenings,
      ((ofDisk root disk).run happenings).view = (Desk.ofDisk root disk).run happenings
        ∧ ((ofDisk root disk).run happenings).Shares := by
  refine ⟨Workspace.resolvesInside, ?_⟩
  intro root disk happenings
  obtain ⟨sound, same⟩ := run_keeps (sound_ofDisk root disk) happenings
  have same : ((ofDisk root disk).run happenings).view = (Desk.ofDisk root disk).run happenings :=
    same
  have reachable : ((ofDisk root disk).run happenings).view.Reachable := ⟨_, _, _, same⟩
  exact ⟨same, sound.shares reachable.sound.tidy⟩

/-- Two handles by two spellings, and what is seen through the second after an edit through the
first. -/
example :
    (((ofDisk [] ⟨[(["a"], .file (.text "b"))], []⟩).run
        [.opens "a", .opens ".//a", .changes 0 (.insert ⟨0, 1⟩ "c")]).handles.map fun d =>
      (d.path, d.cell)) = [("a", 0), (".//a", 0)]
    ∧ ((ofDisk [] ⟨[(["a"], .file (.text "b"))], []⟩).run
        [.opens "a", .opens ".//a", .changes 0 (.insert ⟨0, 1⟩ "c")]).workspace.buffer 0
      = ⟨["bc"], [["b"]], []⟩ := by
  decide +kernel

end CellDesk

end ReplyScript
