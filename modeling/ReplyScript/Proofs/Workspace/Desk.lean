import ReplyScript.Proofs.Disk.Frame
import ReplyScript.Proofs.Workspace.Operations

/-! # Desks keep what others wrote

Buffers stay well-formed and open files stay open whatever happens at a desk. From that, a change
through a handle is always made to the text that its file has at the time.
-/

namespace ReplyScript

open Disk (Path Tree)
open Edit (Position Buffer Change)

namespace Workspace

/-- The file is below the root, with a plain name for every step. -/
def Below (w : Workspace) (file : Path) : Prop :=
  ∃ names, file = w.root ++ names ∧ ∀ name ∈ names, Disk.Plain name

/-- All buffers are well-formed, and they are of files below the root. -/
structure Tidy (w : Workspace) : Prop where
  wellFormed : ∀ file b, w.buffer? file = some b → b.WellFormed
  below : ∀ file, (w.buffer? file).isSome → w.Below file

/-- A tidy workspace in which all files are open that were open in an earlier one. -/
structure Follows (w earlier : Workspace) : Prop where
  tidy : w.Tidy
  kept : ∀ file, (earlier.buffer? file).isSome → (w.buffer? file).isSome

variable {w : Workspace}

theorem below_of_resolve {path : String} {file : Path} (resolved : w.resolve path = .ok file) :
    w.Below file := by
  unfold resolve at resolved
  split at resolved
  · cases resolved
  · rename_i inside
    cases resolved
    refine ⟨_, rfl, ?_⟩
    intro name member
    obtain ⟨member, kept⟩ := List.mem_filter.mp member
    simp only [decide_eq_true_eq] at kept
    refine ⟨kept.1, kept.2, ?_⟩
    rintro rfl
    exact inside (.inr member)

theorem Tidy.wellFormed_getD (tidy : w.Tidy) (file : Path) (text : String) :
    ((w.buffer? file).getD (.ofText text)).WellFormed := by
  cases held : w.buffer? file with
  | some b => exact tidy.wellFormed file b held
  | none => exact Buffer.wellFormed_ofText text

theorem Tidy.wellFormed_buffer (tidy : w.Tidy) (file : Path) : (w.buffer file).WellFormed :=
  tidy.wellFormed_getD file ""

theorem Tidy.setBuffer (tidy : w.Tidy) {file : Path} (below : w.Below file) {b : Buffer}
    (wellFormed : b.WellFormed) : (w.setBuffer file b).Tidy where
  wellFormed := by
    intro f found held
    rw [buffer?_setBuffer] at held
    split at held
    · cases held
      exact wellFormed
    · exact tidy.wellFormed f found held
  below := by
    intro f opened
    rw [buffer?_setBuffer] at opened
    split at opened
    · rename_i same
      rw [same]
      exact below
    · exact tidy.below f opened

namespace Follows

theorem refl (tidy : w.Tidy) : w.Follows w :=
  ⟨tidy, fun _ opened => opened⟩

theorem trans {third second first : Workspace} (late : third.Follows second)
    (early : second.Follows first) : third.Follows first :=
  ⟨late.tidy, fun file opened => late.kept file (early.kept file opened)⟩

theorem setBuffer (tidy : w.Tidy) {file : Path} (below : w.Below file) {b : Buffer}
    (wellFormed : b.WellFormed) : (w.setBuffer file b).Follows w where
  tidy := tidy.setBuffer below wellFormed
  kept := by
    intro f opened
    rw [buffer?_setBuffer]
    split
    · rfl
    · exact opened

theorem setDisk {earlier : Workspace} (follows : w.Follows earlier) (disk : Tree) :
    { w with disk }.Follows earlier :=
  ⟨⟨follows.tidy.wellFormed, follows.tidy.below⟩, follows.kept⟩

theorem syncBuffer (tidy : w.Tidy) (file : Path) (text : String) :
    (w.syncBuffer file text).Follows w := by
  cases held : w.buffer? file with
  | some b =>
      rw [syncBuffer_held held]
      exact setBuffer tidy (tidy.below file (by rw [held]; rfl))
        ((tidy.wellFormed file b held).sync text)
  | none =>
      unfold Workspace.syncBuffer
      rw [held]
      exact refl tidy

theorem readText (tidy : w.Tidy) (path : String) :
    ((readText path).run.run w).2.Follows w := by
  rw [run_readText]
  cases w.resolve path with
  | error fault => exact refl tidy
  | ok file =>
      simp only
      cases w.disk.readText file with
      | error e => exact refl tidy
      | ok text => exact syncBuffer tidy file text

theorem listDirectory (tidy : w.Tidy) (path : String) :
    ((listDirectory path).run.run w).2.Follows w := by
  rw [run_listDirectory_state]
  exact refl tidy

theorem writeFile (tidy : w.Tidy) (path text : String) :
    ((writeFile path text).run.run w).2.Follows w := by
  rw [run_writeFile]
  cases resolved : w.resolve path with
  | error fault => exact refl tidy
  | ok file =>
      simp only
      rcases w.disk.makeDirectories file.dropLast with ⟨disk, _ | e⟩
      · simp only
        cases disk.write file (.text text) with
        | error e => exact (refl tidy).setDisk disk
        | ok disk =>
            simp only
            split
            · exact (setBuffer tidy (below_of_resolve resolved)
                (Buffer.wellFormed_ofText text)).setDisk disk
            · exact (refl tidy).setDisk disk
      · exact (refl tidy).setDisk disk

end Follows

theorem openFile_follows (tidy : w.Tidy) (path : String) :
    ((openFile path).run.run w).2.Follows w ∧ ∀ d, ((openFile path).run.run w).1 = .ok d →
      (((openFile path).run.run w).2.buffer? d.file).isSome := by
  rw [run_openFile]
  cases resolved : w.resolve path with
  | error fault => exact ⟨.refl tidy, by simp⟩
  | ok file =>
      simp only
      cases w.disk.readText file with
      | error e => exact ⟨.refl tidy, by simp⟩
      | ok text =>
          have wellFormed := tidy.wellFormed_getD file text
          refine ⟨.setBuffer tidy (below_of_resolve resolved) (wellFormed.sync text), ?_⟩
          intro d given
          cases given
          rw [buffer?_setBuffer, if_pos rfl]
          rfl

end Workspace

namespace Document

variable {d : Document} {w : Workspace}

open Workspace (Tidy Follows)

theorem refresh_follows (tidy : w.Tidy) : (d.refresh.run.run w).2.Follows w := by
  rw [run_refresh]
  split
  · exact .syncBuffer tidy d.file _
  · exact .refl tidy
  · exact .refl tidy

theorem finish_follows (tidy : w.Tidy) (opened : (w.buffer? d.file).isSome) (c : Change) :
    (d.finish w ((d.buffer w).change c)).2.Follows w := by
  cases changed : (d.buffer w).change c with
  | error p => exact .refl tidy
  | ok made =>
      cases made with
      | none => exact .refl tidy
      | some b =>
          have follows : (w.setBuffer d.file b).Follows w :=
            .setBuffer tidy (tidy.below d.file opened)
              ((tidy.wellFormed_buffer d.file).change changed)
          unfold finish
          simp only
          cases w.disk.write d.file (.text b.text) with
          | error e => exact follows
          | ok disk => exact follows.setDisk disk

theorem change_follows (tidy : w.Tidy) (opened : (w.buffer? d.file).isSome) (c : Change) :
    ((d.change c).run.run w).2.Follows w := by
  have follows := refresh_follows (d := d) tidy
  rw [run_change]
  rcases refreshed : d.refresh.run.run w with ⟨fault | done, next⟩
  · rw [refreshed] at follows
    exact follows
  · rw [refreshed] at follows
    exact (finish_follows follows.tidy (follows.kept d.file opened) c).trans follows

end Document

namespace Desk

/-- All buffers are well-formed, and the file of every handle is open. -/
structure Sound (desk : Desk) : Prop where
  tidy : desk.workspace.Tidy
  opened : ∀ d ∈ desk.handles, (desk.workspace.buffer? d.file).isSome

theorem sound_ofDisk (root : Path) (disk : Tree) : (ofDisk root disk).Sound where
  tidy := by
    constructor
    · intro file b held
      cases held
    · intro file opened
      cases opened
  opened := by
    intro d given
    cases given

namespace Sound

variable {desk : Desk}

theorem after (sound : desk.Sound) {op : WorkspaceM α}
    (follows : (op.run.run desk.workspace).2.Follows desk.workspace) : (desk.after op).Sound where
  tidy := follows.tidy
  opened := fun d given => follows.kept d.file (sound.opened d given)

theorem step (sound : desk.Sound) (happening : Happening) : (desk.step happening).Sound := by
  cases happening with
  | opens path =>
      have ⟨follows, opened⟩ := Workspace.openFile_follows sound.tidy path
      simp only [Desk.step]
      rcases ran : (Workspace.openFile path).run.run desk.workspace with ⟨fault | d, next⟩
      · rw [ran] at follows
        exact ⟨follows.tidy, fun d given => follows.kept d.file (sound.opened d given)⟩
      · rw [ran] at follows opened
        refine ⟨follows.tidy, ?_⟩
        intro other given
        rcases List.mem_append.mp given with given | given
        · exact follows.kept other.file (sound.opened other given)
        · rw [List.mem_singleton.mp given]
          exact opened d rfl
  | reads path => exact sound.after (.readText sound.tidy path)
  | writes path text => exact sound.after (.writeFile sound.tidy path text)
  | lists path => exact sound.after (.listDirectory sound.tidy path)
  | selects i range =>
      refine ⟨sound.tidy, ?_⟩
      intro d given
      simp only [Desk.step] at given ⊢
      obtain ⟨j, found⟩ := List.getElem?_of_mem given
      rw [List.getElem?_modify] at found
      obtain ⟨before, there, rfl⟩ := Option.map_eq_some_iff.mp found
      have opened := sound.opened before (List.mem_of_getElem? there)
      split
      · exact opened
      · exact opened
  | changes i c =>
      simp only [Desk.step]
      split
      · rename_i d given
        have opened := sound.opened d (List.mem_of_getElem? given)
        exact sound.after (Document.change_follows sound.tidy opened c)
      · exact sound
  | outside disk => exact ⟨⟨sound.tidy.wellFormed, sound.tidy.below⟩, sound.opened⟩

theorem run (sound : desk.Sound) (happenings : List Happening) : (desk.run happenings).Sound := by
  induction happenings generalizing desk with
  | nil => exact sound
  | cons happening rest ih => exact ih (sound.step happening)

end Sound

end Desk

/-! ## Changes are made to the text on disk -/

namespace Document

variable {d : Document} {w : Workspace} {held : Buffer} {text : String}

theorem run_change_readable (opened : w.buffer? d.file = some held)
    (readable : w.disk.readText d.file = .ok text) (c : Change) :
    (d.change c).run.run w
      = d.finish (w.setBuffer d.file (held.sync text)) ((held.sync text).change c) := by
  rw [run_change, run_refresh, readable]
  simp only [Workspace.syncBuffer_held opened, buffer_setBuffer]

theorem outOfRange_synced (wellFormed : held.WellFormed) (p : Position) :
    d.outOfRange (w.setBuffer d.file (held.sync text)) p
      = .outOfRange d.path p (Text.lineCount text) := by
  rw [outOfRange, lineCount, buffer_setBuffer,
    ← Buffer.lineCount_text (wellFormed.sync text).present, Buffer.text_sync]

/-- What a change through a handle comes to for its file, and that it leaves every other place. -/
theorem change_readable (wellFormed : held.WellFormed) (opened : w.buffer? d.file = some held)
    (readable : w.disk.readText d.file = .ok text) (c : Change) :
    ∃ result next, (d.change c).run.run w = (result, next)
      ∧ (match c.outcome? held text with
        | some new => result = .ok () ∧ next.disk.readText d.file = .ok new
        | none => (∃ p, result = .error (.outOfRange d.path p (Text.lineCount text)))
            ∧ next.disk.readText d.file = .ok text)
      ∧ (w.disk.LinkFree → ∀ place, place ≠ d.file.settle →
          next.disk.entryAt? place = w.disk.entryAt? place) := by
  rw [run_change_readable opened readable, ← Buffer.textAfter_sync wellFormed text c,
    Buffer.textAfter]
  cases changed : (held.sync text).change c with
  | error p =>
      exact ⟨_, _, rfl, ⟨⟨p, congrArg Except.error (outOfRange_synced wellFormed p)⟩, readable⟩,
        fun _ _ _ => rfl⟩
  | ok made =>
      cases made with
      | none =>
          refine ⟨_, _, rfl, ⟨rfl, ?_⟩, fun _ _ _ => rfl⟩
          show w.disk.readText d.file = .ok (held.sync text).text
          rw [Buffer.text_sync]
          exact readable
      | some b =>
          obtain ⟨place, walked⟩ := Tree.readText_eq_ok.mp readable
          have written : (w.setBuffer d.file (held.sync text)).disk.write d.file (.text b.text)
              = .ok (w.disk.set place (.file (.text b.text))) :=
            Tree.write_walked walked (.text b.text)
          unfold finish
          simp only [written]
          refine ⟨_, _, rfl, ⟨rfl, Tree.readText_set_walked walked b.text⟩, ?_⟩
          intro linkFree other apart
          rw [← Tree.found_of_walk linkFree walked] at apart
          exact Tree.entryAt_set_other w.disk _ apart

end Document

namespace Desk

/-- The desks that come about from a directory of a disk. -/
def Reachable (desk : Desk) : Prop :=
  ∃ root disk happenings, desk = (ofDisk root disk).run happenings

theorem Reachable.sound {desk : Desk} (reachable : desk.Reachable) : desk.Sound := by
  obtain ⟨root, disk, happenings, rfl⟩ := reachable
  exact (sound_ofDisk root disk).run happenings

/-- Whatever happened before, a change through a handle is made to the text that its file has on the
disk, and to nothing else. -/
theorem change_made_to_disk {desk : Desk} (reachable : desk.Reachable) {d : Document}
    (given : d ∈ desk.handles) {text : String}
    (readable : desk.workspace.disk.readText d.file = .ok text) (c : Change) :
    ∃ result next, (d.change c).run.run desk.workspace = (result, next)
      ∧ (match c.outcome? (d.buffer desk.workspace) text with
        | some new => result = .ok () ∧ next.disk.readText d.file = .ok new
        | none => (∃ p, result = .error (.outOfRange d.path p (Text.lineCount text)))
            ∧ next.disk.readText d.file = .ok text)
      ∧ (desk.workspace.disk.LinkFree → ∀ place, place ≠ d.file.settle →
          next.disk.entryAt? place = desk.workspace.disk.entryAt? place) := by
  obtain ⟨held, opened⟩ := Option.isSome_iff_exists.mp (reachable.sound.opened d given)
  have same : d.buffer desk.workspace = held := by
    rw [Document.buffer, Workspace.buffer, opened, Option.getD_some]
  rw [same]
  have wellFormed := reachable.sound.tidy.wellFormed d.file held opened
  exact Document.change_readable wellFormed opened readable c

/-- A file that was opened and edited, and then got another text from outside. -/
def overwritten : Desk :=
  (ofDisk [] ⟨[(["a.txt"], .file (.text "one"))], []⟩).run
    [.opens "a.txt", .changes 0 (.insert ⟨0, 3⟩ " two"),
      .outside ⟨[(["a.txt"], .file (.text "zero"))], []⟩]

def overwrittenHandle : Document :=
  ⟨"a.txt", ["a.txt"], .caret ⟨0, 0⟩⟩

theorem undo_keeps_overwritten :
    ∃ next, (overwrittenHandle.change .undo).run.run overwritten.workspace = (.ok (), next)
      ∧ next.disk.readText ["a.txt"] = .ok "zero" := by
  have reachable : overwritten.Reachable := ⟨_, _, _, rfl⟩
  have handles : overwritten.handles = [overwrittenHandle] := by rfl
  have readable : overwritten.workspace.disk.readText overwrittenHandle.file = .ok "zero" := by rfl
  have outcome : Change.undo.outcome? (overwrittenHandle.buffer overwritten.workspace) "zero"
      = some "zero" := by rfl
  have given : overwrittenHandle ∈ overwritten.handles := by
    rw [handles]
    exact List.mem_singleton_self overwrittenHandle
  obtain ⟨result, next, ran, made, -⟩ := change_made_to_disk reachable given readable .undo
  rw [outcome] at made
  obtain ⟨rfl, kept⟩ := made
  exact ⟨next, ran, kept⟩

end Desk

end ReplyScript
