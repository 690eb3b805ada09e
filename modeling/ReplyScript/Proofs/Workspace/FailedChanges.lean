import ReplyScript.Proofs.Edit.PlainText
import ReplyScript.Proofs.Workspace.Desk
import ReplyScript.Proofs.Workspace.Within

/-! # Changes that fail

A change is made to the buffer before the buffer is saved. So a change that fails leaves the buffer
as it was brought up to date, unless it was made and could not be saved. Main statement:
`Desk.failed_change_kept_iff`.
-/

namespace ReplyScript

open Disk (Path Tree)
open Edit (Position Buffer Change)

theorem Edit.Buffer.change_ne {b next : Buffer} {c : Change}
    (changed : b.change c = .ok (some next)) : next ≠ b := by
  have replaced {range : Edit.Range} {new : String}
      (made : (some <$> b.replace range new : Except Position (Option Buffer)) = .ok (some next)) :
      next ≠ b := by
    cases outcome : b.replace range new with
    | error p =>
        rw [outcome] at made
        cases made
    | ok other =>
        rw [outcome] at made
        cases made
        obtain ⟨joined, -, same⟩ := Buffer.of_replace outcome
        intro still
        have longer := congrArg (fun b => b.past.length) (still.symm.trans same)
        simp at longer
  cases c with
  | insert p text => exact replaced changed
  | replace range text => exact replaced changed
  | delete range => exact replaced changed
  | undo =>
      obtain ⟨lines, past, future⟩ := b
      cases past with
      | nil => cases changed
      | cons latest earlier =>
          cases changed
          simp
  | redo =>
      obtain ⟨lines, past, future⟩ := b
      cases future with
      | nil => cases changed
      | cons latest later =>
          cases changed
          simp

namespace Document

/-- The workspace when the buffer behind a handle has been brought up to date. -/
def refreshed (d : Document) (w : Workspace) : Workspace :=
  (d.refresh.run.run w).2

/-- The change can be made to the buffer, but there is no directory in which to save the file. -/
def Unsavable (d : Document) (w : Workspace) (c : Change) : Prop :=
  w.disk.walk d.file = .error .notFound ∧ ∃ b, (d.buffer w).change c = .ok (some b)

variable {d : Document} {w next : Workspace} {c : Change} {fault : Fault}

/-! ## Bringing a buffer up to date -/

theorem disk_refreshed (d : Document) (w : Workspace) : (d.refreshed w).disk = w.disk := by
  unfold refreshed
  rw [run_refresh]
  split
  · exact w.disk_syncBuffer d.file _
  · rfl
  · rfl

theorem buffer?_refreshed_other (d : Document) (w : Workspace) {file : Path}
    (other : file ≠ d.file) : (d.refreshed w).buffer? file = w.buffer? file := by
  unfold refreshed
  rw [run_refresh]
  split
  · unfold Workspace.syncBuffer
    split
    · rw [Workspace.buffer?_setBuffer, if_neg other]
    · rfl
  · rfl
  · rfl

theorem run_refresh_missing (missing : w.disk.readText d.file = .error .notFound) :
    d.refresh.run.run w = (.ok (), w) := by
  rw [run_refresh, missing]

theorem run_change_missing (missing : w.disk.readText d.file = .error .notFound) (c : Change) :
    (d.change c).run.run w = d.finish w ((d.buffer w).change c) := by
  rw [run_change, run_refresh_missing missing]

/-! ## Failures -/

theorem Unsavable.missing (unsavable : d.Unsavable w c) :
    w.disk.readText d.file = .error .notFound := by
  unfold Tree.readText Tree.read
  rw [unsavable.1]

theorem Unsavable.refreshed (unsavable : d.Unsavable w c) : d.refreshed w = w := by
  rw [Document.refreshed, run_refresh_missing unsavable.missing]

/-- A change to a buffer that was brought up to date is saved, unless there is no directory for the
file. -/
theorem unsavable_of_unwritten (readable : (d.refresh.run.run w).1 = .ok ()) {b : Buffer}
    (changed : (d.buffer (d.refreshed w)).change c = .ok (some b)) {e : Disk.FileError}
    (unwritten : (d.refreshed w).disk.write d.file (.text b.text) = .error e) :
    d.Unsavable w c ∧ d.refreshed w = w := by
  rw [disk_refreshed] at unwritten
  cases read : w.disk.readText d.file with
  | ok text =>
      obtain ⟨place, walked⟩ := Tree.readText_eq_ok.mp read
      rw [Tree.write_walked walked] at unwritten
      cases unwritten
  | error problem =>
      rw [run_refresh, read] at readable
      cases problem with
      | notFound =>
          have still : d.refreshed w = w := by rw [refreshed, run_refresh_missing read]
          rw [still] at changed
          rcases Tree.walk_of_missing read with ⟨place, free⟩ | gone
          · unfold Tree.write at unwritten
            rw [free] at unwritten
            cases unwritten
          · exact ⟨⟨gone, b, changed⟩, still⟩
      | _ => cases readable

theorem run_change_unsavable (unsavable : d.Unsavable w c) :
    ∃ fault b, (d.buffer w).change c = .ok (some b)
      ∧ (d.change c).run.run w = (.error fault, w.setBuffer d.file b) := by
  have missing := unsavable.missing
  obtain ⟨gone, b, changed⟩ := unsavable
  have unwritten : w.disk.write d.file (.text b.text) = .error .notFound := by
    unfold Tree.write
    rw [gone]
  refine ⟨.ofFileError d.path .notFound, b, changed, ?_⟩
  rw [run_change_missing missing, changed]
  simp only [finish, unwritten]

/-- Any other change that fails leaves the workspace as it was brought up to date. -/
theorem refreshed_of_failed (failed : (d.change c).run.run w = (.error fault, next))
    (savable : ¬ d.Unsavable w c) : next = d.refreshed w := by
  rw [run_change] at failed
  rcases ran : d.refresh.run.run w with ⟨early | done, synced⟩
  · rw [ran] at failed
    cases failed
    rw [refreshed, ran]
  · have become : d.refreshed w = synced := by rw [refreshed, ran]
    rw [ran] at failed
    simp only at failed
    cases changed : (d.buffer synced).change c with
    | error p =>
        rw [changed] at failed
        cases failed
        exact become.symm
    | ok made =>
        rw [changed] at failed
        cases made with
        | none => cases failed
        | some b =>
            simp only [finish] at failed
            cases written : synced.disk.write d.file (.text b.text) with
            | ok disk =>
                rw [written] at failed
                cases failed
            | error e =>
                rw [← become] at changed written
                exact absurd (unsavable_of_unwritten (by rw [ran]) changed written).1 savable

/-! ## The same change again -/

/-- A change to a buffer that was brought up to date is made to what the file holds by now. -/
theorem change_refreshed (tidy : w.Tidy) (opened : (w.buffer? d.file).isSome) {disk : Tree}
    {text new : String} (readable : disk.readText d.file = .ok text)
    (outcome : c.outcome? (d.buffer (d.refreshed w)) text = some new) :
    ∃ final, (d.change c).run.run { d.refreshed w with disk } = (.ok (), final)
      ∧ final.disk.readText d.file = .ok new := by
  have follows := refresh_follows (d := d) tidy
  obtain ⟨held, present⟩ : ∃ held, (d.refreshed w).buffer? d.file = some held :=
    Option.isSome_iff_exists.mp (follows.kept d.file opened)
  have same : d.buffer (d.refreshed w) = held := by
    rw [Document.buffer, Workspace.buffer, present, Option.getD_some]
  rw [same] at outcome
  obtain ⟨result, final, ran, made, -⟩ := change_readable (w := { d.refreshed w with disk })
    (follows.tidy.wellFormed d.file held present) present readable c
  rw [outcome] at made
  obtain ⟨rfl, reads⟩ := made
  exact ⟨final, ran, reads⟩

/-- A change to the buffer of a file that is missing makes the file. -/
theorem change_free {place : Path} (free : w.disk.walk d.file = .ok (.free place)) {b : Buffer}
    (changed : (d.buffer w).change c = .ok (some b)) :
    ∃ final, (d.change c).run.run w = (.ok (), final)
      ∧ final.disk.readText d.file = .ok b.text := by
  have missing : w.disk.readText d.file = .error .notFound := by
    unfold Tree.readText Tree.read
    rw [free]
  have written : w.disk.write d.file (.text b.text)
      = .ok (w.disk.set place (.file (.text b.text))) := by
    unfold Tree.write
    rw [free]
  rw [run_change_missing missing, changed]
  simp only [finish, written]
  exact ⟨_, rfl, Tree.readText_set_free free b.text⟩

end Document

namespace Desk

variable {desk : Desk} {d : Document} {c : Change}

/-- A change that fails changes no file and no buffer of another file. It leaves the buffer as it
was brought up to date, history and all, exactly if the reason is not that there is no directory in
which to save the change. Then the same change, made again whatever has become of the disk, is made
to the text of the file, or if the file is missing to the buffer that was kept, and just once. -/
theorem failed_change_kept_iff (reachable : desk.Reachable) (given : d ∈ desk.handles)
    {fault : Fault} {next : Workspace}
    (failed : (d.change c).run.run desk.workspace = (.error fault, next)) :
    let before := d.refreshed desk.workspace
    next.disk = desk.workspace.disk
    ∧ (∀ file, file ≠ d.file → next.buffer? file = desk.workspace.buffer? file)
    ∧ (next.buffer? d.file = before.buffer? d.file ↔ ¬ d.Unsavable desk.workspace c)
    ∧ (¬ d.Unsavable desk.workspace c → ∀ disk,
        (∀ text new, disk.readText d.file = .ok text →
          c.outcome? (d.buffer before) text = some new →
          ∃ final, (d.change c).run.run { next with disk } = (.ok (), final)
            ∧ final.disk.readText d.file = .ok new)
        ∧ (∀ place b, disk.walk d.file = .ok (.free place) →
          (d.buffer before).change c = .ok (some b) →
          ∃ final, (d.change c).run.run { next with disk } = (.ok (), final)
            ∧ final.disk.readText d.file = .ok b.text)) := by
  intro before
  have sound := reachable.sound
  have opened := sound.opened d given
  by_cases unsavable : d.Unsavable desk.workspace c
  · obtain ⟨fault', b, changed, ran⟩ := Document.run_change_unsavable unsavable
    obtain rfl : next = desk.workspace.setBuffer d.file b :=
      congrArg Prod.snd (failed.symm.trans ran)
    have still : before = desk.workspace := unsavable.refreshed
    refine ⟨rfl, ?_, ?_, fun savable => absurd unsavable savable⟩
    · intro file other
      rw [Workspace.buffer?_setBuffer, if_neg other]
    · refine iff_of_false ?_ (not_not_intro unsavable)
      rw [Workspace.buffer?_setBuffer, if_pos rfl, still]
      intro same
      have held : d.buffer desk.workspace = b := by
        rw [Document.buffer, Workspace.buffer, ← same, Option.getD_some]
      exact Buffer.change_ne changed held.symm
  · obtain rfl := Document.refreshed_of_failed failed unsavable
    refine ⟨d.disk_refreshed _, fun file other => d.buffer?_refreshed_other _ other,
      iff_of_true rfl unsavable, fun _ disk => ⟨?_, ?_⟩⟩
    · intro text new readable outcome
      exact Document.change_refreshed sound.tidy opened readable outcome
    · intro place b free changed
      exact Document.change_free (w := { before with disk }) free changed

/-- A directory with a file that holds a text. -/
def shelf (text : String) : Tree :=
  ⟨[(["d"], .directory), (["d", "a.txt"], .file (.text text))], []⟩

/-- The file has been opened. -/
def shelved : Desk :=
  (ofDisk [] (shelf "x")).run [.opens "d/a.txt"]

def shelvedHandle : Document :=
  ⟨"d/a.txt", ["d", "a.txt"], .caret ⟨0, 0⟩⟩

/-- An insertion on the second line fails, and is made once when there is a second line. -/
theorem failed_change_kept_secondLine :
    ∃ fault next final,
      (shelvedHandle.change (.insert ⟨1, 0⟩ "y")).run.run shelved.workspace = (.error fault, next)
      ∧ (shelvedHandle.change (.insert ⟨1, 0⟩ "y")).run.run { next with disk := shelf "x\n" }
        = (.ok (), final)
      ∧ final.disk.readText ["d", "a.txt"] = .ok "x\ny" := by
  have reachable : shelved.Reachable := ⟨_, _, _, rfl⟩
  have handles : shelved.handles = [shelvedHandle] := by rfl
  have given : shelvedHandle ∈ shelved.handles := by
    rw [handles]
    exact List.mem_singleton_self shelvedHandle
  obtain ⟨fault, next, failed⟩ : ∃ fault next,
      (shelvedHandle.change (.insert ⟨1, 0⟩ "y")).run.run shelved.workspace
        = (.error fault, next) := ⟨_, _, rfl⟩
  have savable : ¬ shelvedHandle.Unsavable shelved.workspace (.insert ⟨1, 0⟩ "y") := by
    rintro ⟨gone, -⟩
    cases gone
  obtain ⟨-, -, -, again⟩ := failed_change_kept_iff reachable given failed
  obtain ⟨final, ran, reads⟩ := (again savable (shelf "x\n")).1 "x\n" "x\ny" rfl rfl
  exact ⟨fault, next, final, failed, ran, reads⟩

/-- The file after two edits, when its directory has gone away. -/
def stranded : Desk :=
  (ofDisk [] (shelf "x")).run
    [.opens "d/a.txt", .changes 0 (.insert ⟨0, 0⟩ "y"), .changes 0 (.insert ⟨0, 0⟩ "z"),
      .outside .empty]

/-- Taking back the second edit fails but is done to the buffer, and when the directory is back,
taking it back again takes back the first edit too. -/
theorem failed_change_made_twice :
    stranded.Reachable ∧ shelvedHandle ∈ stranded.handles
    ∧ ∃ next final,
      (shelvedHandle.change .undo).run.run stranded.workspace
        = (.error (.notFound "d/a.txt"), next)
      ∧ (shelvedHandle.refreshed stranded.workspace).buffer? ["d", "a.txt"]
        = some ⟨["zyx"], [["yx"], ["x"]], []⟩
      ∧ next.buffer? ["d", "a.txt"] = some ⟨["yx"], [["x"]], [["zyx"]]⟩
      ∧ (shelvedHandle.change .undo).run.run { next with disk := ⟨[(["d"], .directory)], []⟩ }
        = (.ok (), final)
      ∧ final.disk.readText ["d", "a.txt"] = .ok "x" := by
  have handles : stranded.handles = [shelvedHandle] := by rfl
  refine ⟨⟨_, _, _, rfl⟩, ?_, _, _, rfl, rfl, rfl, rfl, rfl⟩
  rw [handles]
  exact List.mem_singleton_self shelvedHandle

end Desk

end ReplyScript
