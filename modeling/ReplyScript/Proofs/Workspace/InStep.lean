import ReplyScript.Proofs.Workspace.Desk

/-! # Buffers in step with the disk

A buffer that holds the text of its file keeps doing so, whatever is done at the desk, as long as
nothing outside changes the disk and no links let two paths lead to one file.
-/

namespace ReplyScript

open Disk (Path Tree)
open Edit (Buffer Change)

namespace Workspace

/-- A tidy workspace on a disk without links. -/
structure Orderly (w : Workspace) : Prop extends Tidy w where
  linkFree : w.disk.LinkFree

/-- The file is open, and its buffer holds the text it has on the disk. -/
def InStep (w : Workspace) (file : Path) : Prop :=
  ∃ b, w.buffer? file = some b ∧ w.disk.readText file = .ok b.text

/-- An orderly workspace in which all files are in step that were in step in an earlier one. -/
structure Steady (w earlier : Workspace) : Prop where
  orderly : w.Orderly
  inStep : ∀ file, earlier.InStep file → w.InStep file

variable {w : Workspace} {file : Path} {b : Buffer} {text : String}

theorem InStep.opened (inStep : w.InStep file) : (w.buffer? file).isSome := by
  obtain ⟨b, held, -⟩ := inStep
  rw [held]
  rfl

theorem settle_ne {other : Path} (first : w.Below file) (second : w.Below other)
    (apart : other ≠ file) : other.settle ≠ file.settle := by
  obtain ⟨names, rfl, plain⟩ := first
  obtain ⟨names', rfl, plain'⟩ := second
  rw [Disk.settle_append_plain _ plain, Disk.settle_append_plain _ plain']
  intro same
  exact apart (congrArg (w.root ++ ·) (List.append_cancel_left same))

namespace Steady

theorem refl (orderly : w.Orderly) : w.Steady w :=
  ⟨orderly, fun _ inStep => inStep⟩

theorem trans {third second first : Workspace} (late : third.Steady second)
    (early : second.Steady first) : third.Steady first :=
  ⟨late.orderly, fun file inStep => late.inStep file (early.inStep file inStep)⟩

theorem setBuffer (orderly : w.Orderly) (below : w.Below file) (wellFormed : b.WellFormed)
    (readable : w.disk.readText file = .ok b.text) : (w.setBuffer file b).Steady w where
  orderly := ⟨orderly.toTidy.setBuffer below wellFormed, orderly.linkFree⟩
  inStep := by
    intro f inStep
    by_cases same : f = file
    · subst same
      exact ⟨b, by simp, readable⟩
    · obtain ⟨c, held, readable⟩ := inStep
      exact ⟨c, by simp [same, held], readable⟩

theorem setDisk (orderly : w.Orderly) {disk : Tree} (linkFree : disk.LinkFree)
    (kept : ∀ file text, (w.buffer? file).isSome → w.disk.readText file = .ok text →
      disk.readText file = .ok text) : { w with disk }.Steady w where
  orderly := ⟨⟨orderly.wellFormed, orderly.below⟩, linkFree⟩
  inStep := by
    intro file inStep
    have opened := inStep.opened
    obtain ⟨b, held, readable⟩ := inStep
    exact ⟨b, held, kept file b.text opened readable⟩

theorem store (orderly : w.Orderly) (below : w.Below file) (wellFormed : b.WellFormed) {disk : Tree}
    (written : w.disk.write file (.text b.text) = .ok disk) :
    { w.setBuffer file b with disk }.Steady w where
  orderly :=
    have tidy := orderly.toTidy.setBuffer below wellFormed
    ⟨⟨tidy.wellFormed, tidy.below⟩, orderly.linkFree.write written⟩
  inStep := by
    intro f inStep
    have opened := inStep.opened
    obtain ⟨c, held, readable⟩ := inStep
    by_cases same : f = file
    · subst same
      obtain ⟨place, walked⟩ := Tree.readText_eq_ok.mp readable
      rw [Tree.write_walked walked] at written
      cases written
      have held : (w.setBuffer f b).buffer? f = some b := by simp
      exact ⟨b, held, Tree.readText_set_walked walked b.text⟩
    · refine ⟨c, ?_, ?_⟩
      · have other := buffer?_setBuffer w file b f
        rw [if_neg same, held] at other
        exact other
      · exact Tree.readText_write_other orderly.linkFree written
          (settle_ne below (orderly.below f opened) same) readable

theorem keepUnwritten (orderly : w.Orderly) (below : w.Below file) (wellFormed : b.WellFormed)
    {e : Disk.FileError} (unwritten : w.disk.write file (.text b.text) = .error e) :
    (w.setBuffer file b).Steady w where
  orderly := ⟨orderly.toTidy.setBuffer below wellFormed, orderly.linkFree⟩
  inStep := by
    intro f inStep
    obtain ⟨c, held, readable⟩ := inStep
    by_cases same : f = file
    · subst same
      obtain ⟨place, walked⟩ := Tree.readText_eq_ok.mp readable
      rw [Tree.write_walked walked] at unwritten
      cases unwritten
    · exact ⟨c, by simp [same, held], readable⟩

theorem syncBuffer (orderly : w.Orderly) (readable : w.disk.readText file = .ok text) :
    (w.syncBuffer file text).Steady w := by
  cases held : w.buffer? file with
  | some b =>
      rw [syncBuffer_held held]
      refine setBuffer orderly (orderly.below file (by rw [held]; rfl))
        ((orderly.wellFormed file b held).sync text) ?_
      rw [Buffer.text_sync]
      exact readable
  | none =>
      unfold Workspace.syncBuffer
      rw [held]
      exact refl orderly

theorem readText (orderly : w.Orderly) (path : String) :
    ((readText path).run.run w).2.Steady w := by
  rw [run_readText]
  cases w.resolve path with
  | error fault => exact refl orderly
  | ok file =>
      simp only
      cases readable : w.disk.readText file with
      | error e => exact refl orderly
      | ok text => exact syncBuffer orderly readable

theorem listDirectory (orderly : w.Orderly) (path : String) :
    ((listDirectory path).run.run w).2.Steady w := by
  rw [run_listDirectory_state]
  exact refl orderly

theorem makeDirectories (orderly : w.Orderly) (directory : Path) :
    { w with disk := (w.disk.makeDirectories directory).1 }.Steady w :=
  setDisk orderly (orderly.linkFree.makeDirectories directory)
    fun _ _ _ readable => Tree.readText_makeDirectories readable directory

theorem writeFile (orderly : w.Orderly) (path text : String) :
    ((writeFile path text).run.run w).2.Steady w := by
  rw [run_writeFile]
  cases resolved : w.resolve path with
  | error fault => exact refl orderly
  | ok file =>
      have below := below_of_resolve resolved
      have made := makeDirectories orderly file.dropLast
      simp only
      rcases directories : w.disk.makeDirectories file.dropLast with ⟨disk, _ | e⟩
      · rw [directories] at made
        simp only
        cases written : disk.write file (.text text) with
        | error e => exact made
        | ok after =>
            refine trans ?_ made
            simp only
            split
            · rename_i opened
              have wrote : disk.write file (.text (Buffer.ofText text).text) = .ok after := by
                rw [Buffer.text_ofText]
                exact written
              exact store made.orderly below (Buffer.wellFormed_ofText text) wrote
            · rename_i closed
              refine setDisk made.orderly (made.orderly.linkFree.write written) ?_
              intro f text opened readable
              have apart : f ≠ file := by
                rintro rfl
                exact closed opened
              exact Tree.readText_write_other made.orderly.linkFree written
                (settle_ne below (orderly.below f opened) apart) readable
      · rw [directories] at made
        exact made

end Steady

theorem openFile_steady (orderly : w.Orderly) (path : String) :
    ((openFile path).run.run w).2.Steady w ∧ ∀ d, ((openFile path).run.run w).1 = .ok d →
      ((openFile path).run.run w).2.InStep d.file := by
  rw [run_openFile]
  cases resolved : w.resolve path with
  | error fault => exact ⟨.refl orderly, by simp⟩
  | ok file =>
      simp only
      cases readable : w.disk.readText file with
      | error e => exact ⟨.refl orderly, by simp⟩
      | ok text =>
          have wellFormed := orderly.wellFormed_getD file text
          have same : w.disk.readText file
              = .ok (((w.buffer? file).getD (.ofText text)).sync text).text := by
            rw [Buffer.text_sync, readable]
          refine ⟨.setBuffer orderly (below_of_resolve resolved) (wellFormed.sync text) same, ?_⟩
          intro d given
          cases given
          exact ⟨_, by simp, same⟩

end Workspace

namespace Document

variable {d : Document} {w : Workspace}

open Workspace (Orderly Steady)

theorem refresh_steady (orderly : w.Orderly) : (d.refresh.run.run w).2.Steady w := by
  rw [run_refresh]
  cases readable : w.disk.readText d.file with
  | ok text => exact .syncBuffer orderly readable
  | error e => cases e <;> exact .refl orderly

theorem finish_steady (orderly : w.Orderly) (opened : (w.buffer? d.file).isSome) (c : Change) :
    (d.finish w ((d.buffer w).change c)).2.Steady w := by
  cases changed : (d.buffer w).change c with
  | error p => exact .refl orderly
  | ok made =>
      cases made with
      | none => exact .refl orderly
      | some b =>
          have below := orderly.below d.file opened
          have wellFormed := (orderly.wellFormed_buffer d.file).change changed
          unfold finish
          simp only
          cases written : w.disk.write d.file (.text b.text) with
          | ok disk => exact .store orderly below wellFormed written
          | error e => exact .keepUnwritten orderly below wellFormed written

theorem change_steady (orderly : w.Orderly) (opened : (w.buffer? d.file).isSome) (c : Change) :
    ((d.change c).run.run w).2.Steady w := by
  have steady := refresh_steady (d := d) orderly
  have follows := refresh_follows (d := d) orderly.toTidy
  rw [run_change]
  rcases refreshed : d.refresh.run.run w with ⟨fault | done, next⟩
  · rw [refreshed] at steady
    exact steady
  · rw [refreshed] at steady follows
    exact (finish_steady steady.orderly (follows.kept d.file opened) c).trans steady

end Document

namespace Desk

variable {desk : Desk}

theorem step_steady (sound : desk.Sound) (linkFree : desk.workspace.disk.LinkFree)
    {happening : Happening} (inside : happening.isInside = true) :
    (desk.step happening).workspace.Steady desk.workspace := by
  have orderly : desk.workspace.Orderly := ⟨sound.tidy, linkFree⟩
  cases happening with
  | opens path =>
      have steady := (Workspace.openFile_steady orderly path).1
      simp only [Desk.step]
      rcases ran : (Workspace.openFile path).run.run desk.workspace with ⟨fault | d, next⟩
      · rw [ran] at steady
        exact steady
      · rw [ran] at steady
        exact steady
  | reads path => exact .readText orderly path
  | writes path text => exact .writeFile orderly path text
  | lists path => exact .listDirectory orderly path
  | selects i range => exact .refl orderly
  | changes i c =>
      simp only [Desk.step]
      split
      · rename_i d given
        have opened := sound.opened d (List.mem_of_getElem? given)
        exact Document.change_steady orderly opened c
      · exact .refl orderly
  | outside disk => cases inside

/-- Whatever is done at a desk, files that are in step stay so. -/
theorem run_steady (sound : desk.Sound) (linkFree : desk.workspace.disk.LinkFree)
    {happenings : List Happening}
    (inside : ∀ happening ∈ happenings, happening.isInside = true) :
    (desk.run happenings).workspace.Steady desk.workspace := by
  induction happenings generalizing desk with
  | nil => exact .refl ⟨sound.tidy, linkFree⟩
  | cons happening rest ih =>
      have first := step_steady sound linkFree (inside happening List.mem_cons_self)
      have later := ih (sound.step happening) first.orderly.linkFree
        fun other member => inside other (List.mem_cons_of_mem _ member)
      exact later.trans first

end Desk

end ReplyScript
