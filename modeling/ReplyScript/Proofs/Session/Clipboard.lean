import ReplyScript.Proofs.Session.UndoRedo
import ReplyScript.Proofs.Workspace.Within

/-! # The clipboard

What is cut out of a file can be put back. Main statement: `cut_paste_restores`.
-/

namespace ReplyScript

open Disk (Path)
open Edit (Buffer Position Range UpTo splice? textBetween?)
open Effect Scene
open Script (Command)

/-! ## Files that are there to be edited -/

namespace World

/-- The path leads to a file with the text, and no service is made to fail. -/
structure Offers (w : World) (path : String) (file : Path) (text : String) : Prop where
  unfailing : w.Unfailing
  tidy : w.workspace.Tidy
  resolved : w.workspace.resolve path = .ok file
  readable : w.workspace.disk.readText file = .ok text

variable {w u : World} {path : String} {file : Path} {text new : String}

namespace Offers

theorem of_workspace (offers : w.Offers path file text) (same : u.workspace = w.workspace)
    (unfailing : u.Unfailing) : u.Offers path file text := by
  refine ⟨unfailing, ?_, ?_, ?_⟩ <;> rw [same]
  · exact offers.tidy
  · exact offers.resolved
  · exact offers.readable

theorem openFile (offers : w.Offers path file text) :
    ∃ d u, (World.openFile path).run.run w = (.ok d, u) ∧ d.file = file
      ∧ d.Fresh u.workspace text ∧ u.Offers path file text
      ∧ u.workspace.disk = w.workspace.disk ∧ u.clipboard = w.clipboard := by
  obtain ⟨v, opened⟩ := Workspace.openFile_readable offers.resolved offers.readable
  obtain ⟨u, called, workspace, works, clipboard⟩ :=
    offers.unfailing.run_called .openFile path (Workspace.openFile path)
  have root := w.workspace.root_openFile path
  obtain ⟨-, disk, other, fresh⟩ := Workspace.openFile_fresh offers.tidy opened
  rw [opened] at called workspace root
  have readable : v.disk.readText file = .ok text := by
    rw [disk]
    exact offers.readable
  obtain rfl := Except.ok.inj (readable.symm.trans fresh.readable)
  subst workspace
  refine ⟨_, u, called, rfl, fresh, ⟨works, fresh.tidy, ?_, readable⟩, disk, clipboard⟩
  rw [Workspace.resolve_of_root root]
  exact offers.resolved

theorem replace (offers : w.Offers path file text) {d : Document} (same : d.file = file)
    (fresh : d.Fresh w.workspace text) {range : Range} {part : String}
    (spliced : splice? text range part = some new) :
    ∃ u, (inWorkspace (d.replace range part)).run.run w = (.ok (), u) ∧ u.Offers path file new
      ∧ u.clipboard = w.clipboard := by
  obtain ⟨u, ran, newer⟩ := fresh.replace spliced
  have within : w.workspace.Within (fun _ => True) (fun _ => True)
      ((d.replace range part).run.run w.workspace) :=
    d.within_change trivial (.replace range part)
  rw [ran] at within
  refine ⟨_, inWorkspace_of_completed ran, ⟨offers.unfailing, newer.tidy, ?_, ?_⟩, rfl⟩
  · rw [Workspace.resolve_of_root within.root]
    exact offers.resolved
  · rw [← same]
    exact newer.readable

end Offers

end World

/-! ## Copying, cutting and pasting -/

section

variable {s : Scene} {path : String} {file : Path} {text part left new : String} {range : Range}

/-- Copying reads the file and writes the clipboard. -/
theorem copyRange_copies (offers : s.world.Offers path file text)
    (between : textBetween? text range = some part) (i : Instruction) :
    ∃ d t, (copyRange i path range).run.run s = (.ok d, t) ∧ d.file = file
      ∧ d.Fresh t.world.workspace text ∧ t.world.Offers path file text ∧ t.session = s.session
      ∧ t.world.workspace.disk = s.world.workspace.disk ∧ t.world.clipboard = part := by
  obtain ⟨d, u, opened, same, fresh, ready, disk, -⟩ := offers.openFile
  have shown := World.inWorkspace_of_completed (fresh.run_textIn between)
  obtain ⟨v, written, workspace, works, clipboard⟩ := ready.unfailing.run_writeClipboard part
  unfold copyRange
  rw [run_bind, demand_of_completed opened]
  simp only
  rw [run_bind, demand_of_completed shown]
  simp only
  rw [run_bind, demand_of_completed written]
  refine ⟨d, _, rfl, same, ?_, ready.of_workspace workspace works, rfl, ?_, clipboard⟩
  · rw [workspace]
    exact fresh
  · rw [workspace]
    exact disk

theorem performCut_cuts (offers : s.world.Offers path file text)
    (active : s.session.active.isSome) (between : textBetween? text range = some part)
    (spliced : splice? text range "" = some left) :
    ∃ t, (performCut path range).run.run s = (.ok (), t) ∧ t.world.Offers path file left
      ∧ t.session = s.session ∧ t.world.clipboard = part := by
  obtain ⟨d, found⟩ := Option.isSome_iff_exists.mp active
  obtain ⟨copied, t, ran, same, fresh, ready, session, -, clipboard⟩ :=
    copyRange_copies offers between .cut
  obtain ⟨u, deleted, less, kept⟩ := ready.replace same fresh spliced
  unfold performCut
  rw [run_bind, run_activeDocument, found]
  simp only
  rw [run_bind, ran]
  simp only
  have deleted : (World.inWorkspace (copied.delete range)).run.run t.world = (.ok (), u) := deleted
  rw [demand_of_completed deleted]
  exact ⟨_, rfl, less, session, kept.trans clipboard⟩

theorem performPaste_pastes (offers : s.world.Offers path file text)
    (active : s.session.active.isSome) {position : Position}
    (spliced : splice? text (.caret position) s.world.clipboard = some new) :
    ∃ t, (performPaste path position).run.run s = (.ok (), t) ∧ t.world.Offers path file new := by
  obtain ⟨d, found⟩ := Option.isSome_iff_exists.mp active
  obtain ⟨pasted, u, opened, same, fresh, ready, -, clipboard⟩ := offers.openFile
  obtain ⟨v, read, workspace, works⟩ := ready.unfailing.run_readClipboard
  rw [← clipboard] at spliced
  rw [← workspace] at fresh
  obtain ⟨x, inserted, more, -⟩ := (ready.of_workspace workspace works).replace same fresh spliced
  have inserted : (World.inWorkspace (pasted.insert position u.clipboard)).run.run v
      = (.ok (), x) := inserted
  unfold performPaste
  rw [run_bind, run_activeDocument, found]
  simp only
  rw [run_bind, demand_of_completed opened]
  simp only
  rw [run_bind, demand_of_completed read]
  simp only
  rw [run_bind, run_activate]
  simp only
  rw [demand_of_completed inserted]
  exact ⟨_, rfl, more⟩

end

/-- Copying leaves the files and the session as they are and puts the text of the range on the
clipboard. Cutting leaves the file without it, and the session as it is. If the range starts in its
line, pasting there puts the file back to what it was. -/
theorem cut_paste_restores {desk : Desk} (reachable : desk.Reachable) {s : Scene}
    (same : s.world.workspace = desk.workspace) (unfailing : s.world.Unfailing) {path : String}
    {file : Path} {text : String} (resolved : s.world.workspace.resolve path = .ok file)
    (readable : s.world.workspace.disk.readText file = .ok text) {range : Range}
    (inside : range.normalized.stop.line < Text.lineCount text)
    (within : ∀ line, (Text.lines text)[range.normalized.start.line]? = some line →
      range.normalized.start.column ≤ line.length)
    (active : s.session.active.isSome) {copies cuts pastes : Command}
    (copy : copies.action? = .ok (some (.copy path range)))
    (cut : cuts.action? = .ok (some (.cut path range)))
    (paste : pastes.action? = .ok (some (.paste path range.normalized.start))) :
    ∃ before part after t u v, text = before ++ part ++ after
      ∧ UpTo text range.normalized.start before
      ∧ UpTo text range.normalized.stop (before ++ part)
      ∧ performAll [copies] s = (none, t)
      ∧ t.world.workspace.disk = s.world.workspace.disk ∧ t.session = s.session
      ∧ t.world.clipboard = part
      ∧ performAll [cuts] s = (none, u)
      ∧ u.world.workspace.disk.readText file = .ok (before ++ after) ∧ u.session = s.session
      ∧ u.world.clipboard = part
      ∧ performAll [cuts, pastes] s = (none, v)
      ∧ v.world.workspace.disk.readText file = .ok text := by
  have tidy : s.world.workspace.Tidy := by
    rw [same]
    exact reachable.sound.tidy
  have offers : s.world.Offers path file text := ⟨unfailing, tidy, resolved, readable⟩
  obtain ⟨before, part, after, whole, start, stop, between, without, again⟩ :=
    Buffer.exists_putBack (b := .ofText text) (Edit.canonical_lines text) inside within
  rw [Buffer.text_ofText] at whole start stop between without again
  obtain ⟨d, t, copied, -, -, -, still, disk, clipboard⟩ := copyRange_copies offers between .copy
  obtain ⟨u, taken, less, kept, holding⟩ := performCut_cuts offers active between without
  -- Pasting starts from the shorter text, with what was cut out on the clipboard.
  rw [← holding] at again
  rw [← kept] at active
  obtain ⟨v, put, restored⟩ := performPaste_pastes less active again
  have first : copies.perform.run.run s = (.ok (), t) := by
    rw [perform_asked copy]
    show (do let _ ← copyRange .copy path range : SceneM Unit).run.run s = _
    rw [run_bind, copied]
    rfl
  have second : cuts.perform.run.run s = (.ok (), u) := (perform_asked cut).symm ▸ taken
  have third : pastes.perform.run.run u = (.ok (), v) := (perform_asked paste).symm ▸ put
  refine ⟨before, part, after, t, u, v, whole, start, stop, ?_, disk, still, clipboard, ?_,
    less.readable, kept, holding, ?_, restored.readable⟩
  · rw [performAll_cons, first]
    rfl
  · rw [performAll_cons, second]
    rfl
  · rw [performAll_cons, second]
    simp only [performAll_cons, third]
    rfl

/-- A file with three lines. -/
def threeLines : String :=
  "one\ntwo\nthree"

/-- A session on the file, while another one is active that is not there. -/
def Scene.withAbsent : Scene :=
  let s := onFile "a.txt" threeLines
  { s with session := { s.session with active := some ⟨"b.txt", ["b.txt"], .caret ⟨9, 9⟩⟩ } }

/-- Copy from beyond the end of the last line back to the second character of the file. -/
def copiesBackwards : Command :=
  ⟨"copy", [.text "a.txt", .integer 2, .integer 99, .integer 0, .integer 1], ⟨0, 0⟩⟩

def cutsBackwards : Command :=
  { copiesBackwards with name := "cut" }

/-- Paste where that began. -/
def pastesBack : Command :=
  ⟨"paste", [.text "a.txt", .integer 0, .integer 1], ⟨0, 0⟩⟩

theorem cut_paste_restores_backwards :
    ∃ t u v, performAll [copiesBackwards] .withAbsent = (none, t)
      ∧ performAll [cutsBackwards] .withAbsent = (none, u)
      ∧ t.world.clipboard = u.world.clipboard
      ∧ performAll [cutsBackwards, pastesBack] .withAbsent = (none, v)
      ∧ v.world.workspace.disk.readText ["a.txt"] = .ok threeLines := by
  have reachable : (Desk.ofDisk [] ⟨[(["a.txt"], .file (.text threeLines))], []⟩).Reachable :=
    ⟨_, _, [], rfl⟩
  have named : Scene.withAbsent.world.workspace.resolve "a.txt" = .ok ["a.txt"] := rfl
  have copy : copiesBackwards.action? = .ok (some (.copy "a.txt" (.ofCoordinates 2 99 0 1))) := rfl
  have cut : cutsBackwards.action? = .ok (some (.cut "a.txt" (.ofCoordinates 2 99 0 1))) := rfl
  have paste : pastesBack.action? = .ok (some (.paste "a.txt" ⟨0, 1⟩)) := rfl
  have inside : (Range.ofCoordinates 2 99 0 1).normalized.stop.line
      < Text.lineCount threeLines := by decide +kernel
  have within : ∀ line, (Text.lines threeLines)[0]? = some line → 1 ≤ line.length := by
    decide +kernel
  obtain ⟨before, part, after, t, u, v, -, -, -, copied, -, -, same, taken, -, -, holding, put,
      restored⟩ :=
    cut_paste_restores reachable rfl (fun _ => rfl) named rfl inside within rfl copy cut paste
  exact ⟨t, u, v, copied, taken, same.trans holding.symm, put, restored⟩

end ReplyScript
