import ReplyScript.Proofs.Workspace.InStep

/-! # What is left of the history of a file

The buffer of a file counts once it is brought up to date with the disk. It stays the same, with all
its history, when other files are changed, and when the file is only read or a change to it is
refused; main statement: `Document.change_spares`. A document that was just opened has the buffer
that counts.
-/

namespace ReplyScript

open Disk (Path Tree)
open Edit (Buffer Canonical Change Range splice? textBetween?)

namespace Workspace

variable {w : Workspace} {file : Path} {b : Buffer} {text : String}

/-- This is the buffer that the file has once it is brought up to date with the disk. A file that
is not open will have one without a history. -/
def Holds (w : Workspace) (file : Path) (b : Buffer) : Prop :=
  w.disk.readText file = .ok b.text ∧ ((w.buffer? file).getD (.ofText b.text)).sync b.text = b

/-- The file is open with this buffer, which is up to date. -/
def Stores (w : Workspace) (file : Path) (b : Buffer) : Prop :=
  w.buffer? file = some b ∧ w.disk.readText file = .ok b.text

/-- An orderly workspace with a file that can be read. -/
structure Has (w : Workspace) (file : Path) : Prop extends Orderly w where
  inside : w.Below file
  readable : ∃ text, w.disk.readText file = .ok text

/-- The file is the same as in an earlier workspace: on the disk, and in its buffer. -/
structure Untouched (file : Path) (w earlier : Workspace) : Prop where
  root : w.root = earlier.root
  buffer : w.buffer? file = earlier.buffer? file
  text : ∀ text, earlier.disk.readText file = .ok text → w.disk.readText file = .ok text

/-- An orderly workspace in which the file counts as the same buffer as in an earlier one. -/
structure Spares (file : Path) (w earlier : Workspace) : Prop where
  orderly : w.Orderly
  root : w.root = earlier.root
  kept : ∀ b, earlier.Holds file b → w.Holds file b

/-! ## Buffers that are up to date -/

theorem sync_text (b : Buffer) : b.sync b.text = b := by
  unfold Buffer.sync
  rw [if_pos rfl]

theorem Holds.of_readable (readable : w.disk.readText file = .ok text) :
    w.Holds file (((w.buffer? file).getD (.ofText text)).sync text) := by
  unfold Holds
  rw [Buffer.text_sync]
  exact ⟨readable, rfl⟩

theorem Stores.holds (stores : w.Stores file b) : w.Holds file b := by
  refine ⟨stores.2, ?_⟩
  rw [stores.1, Option.getD_some, sync_text]

theorem Stores.has (stores : w.Stores file b) (orderly : w.Orderly) : w.Has file where
  toOrderly := orderly
  inside := orderly.below file (by rw [stores.1]; rfl)
  readable := ⟨_, stores.2⟩

/-- The lines of a buffer that counts are those of its text. -/
theorem Holds.lines (holds : w.Holds file b) (tidy : w.Tidy) : Text.lines b.text = b.lines := by
  have wellFormed := (tidy.wellFormed_getD file b.text).sync b.text
  rw [holds.2] at wellFormed
  exact wellFormed.present.lines_unlines

theorem resolve_of_root {earlier : Workspace} (same : w.root = earlier.root) (path : String) :
    w.resolve path = earlier.resolve path := by
  unfold resolve
  rw [same]

theorem root_openFile (w : Workspace) (path : String) :
    ((openFile path).run.run w).2.root = w.root := by
  rw [run_openFile]
  split
  · rfl
  · split <;> rfl

theorem root_writeFile (w : Workspace) (path text : String) :
    ((writeFile path text).run.run w).2.root = w.root := by
  rw [run_writeFile]
  split
  · rfl
  · split
    · rfl
    · split
      · rfl
      · simp only
        split <;> rfl

/-! ## Files that are left alone -/

namespace Untouched

theorem refl (file : Path) (w : Workspace) : w.Untouched file w :=
  ⟨rfl, rfl, fun _ readable => readable⟩

theorem trans {third second first : Workspace} (late : third.Untouched file second)
    (early : second.Untouched file first) : third.Untouched file first :=
  ⟨late.root.trans early.root, late.buffer.trans early.buffer,
    fun text readable => late.text text (early.text text readable)⟩

theorem setBuffer {other : Path} (apart : file ≠ other) (b : Buffer) :
    (w.setBuffer other b).Untouched file w where
  root := rfl
  buffer := by rw [buffer?_setBuffer, if_neg apart]
  text := fun _ readable => readable

theorem syncBuffer {other : Path} (apart : file ≠ other) (text : String) :
    (w.syncBuffer other text).Untouched file w := by
  cases held : w.buffer? other with
  | some b =>
      rw [syncBuffer_held held]
      exact setBuffer apart _
  | none =>
      unfold Workspace.syncBuffer
      rw [held]
      exact refl file w

theorem setDisk {disk : Tree}
    (same : ∀ text, w.disk.readText file = .ok text → disk.readText file = .ok text) :
    { w with disk }.Untouched file w :=
  ⟨rfl, rfl, same⟩

theorem write (linkFree : w.disk.LinkFree) {other : Path} (places : file.settle ≠ other.settle)
    {disk : Tree} (written : w.disk.write other (.text text) = .ok disk) :
    { w with disk }.Untouched file w :=
  setDisk fun _ readable => Tree.readText_write_other linkFree written places readable

end Untouched

namespace Spares

theorem refl (orderly : w.Orderly) : w.Spares file w :=
  ⟨orderly, rfl, fun _ holds => holds⟩

theorem trans {third second first : Workspace} (late : third.Spares file second)
    (early : second.Spares file first) : third.Spares file first :=
  ⟨late.orderly, late.root.trans early.root, fun b holds => late.kept b (early.kept b holds)⟩

theorem has {earlier : Workspace} (spares : w.Spares file earlier) (has : earlier.Has file) :
    w.Has file where
  toOrderly := spares.orderly
  inside := by
    unfold Below
    rw [spares.root]
    exact has.inside
  readable := by
    obtain ⟨text, readable⟩ := has.readable
    exact ⟨_, (spares.kept _ (.of_readable readable)).1⟩

theorem of_untouched {earlier : Workspace} (orderly : w.Orderly)
    (untouched : w.Untouched file earlier) : w.Spares file earlier where
  orderly := orderly
  root := untouched.root
  kept := by
    rintro b ⟨readable, synced⟩
    refine ⟨untouched.text _ readable, ?_⟩
    rw [untouched.buffer]
    exact synced

theorem syncBuffer (orderly : w.Orderly) {opened : Path}
    (readable : w.disk.readText opened = .ok text) : (w.syncBuffer opened text).Spares file w := by
  have orderlyAfter := (Steady.syncBuffer orderly readable).orderly
  by_cases same : file = opened
  · subst same
    cases held : w.buffer? file with
    | none =>
        unfold Workspace.syncBuffer
        rw [held]
        exact refl orderly
    | some old =>
        rw [syncBuffer_held held] at orderlyAfter ⊢
        refine ⟨orderlyAfter, rfl, ?_⟩
        rintro b ⟨onDisk, synced⟩
        rw [readable] at onDisk
        cases onDisk
        rw [held, Option.getD_some] at synced
        rw [synced]
        exact Stores.holds ⟨by simp, readable⟩
  · exact of_untouched orderlyAfter (.syncBuffer same text)

theorem readText (orderly : w.Orderly) (path : String) :
    ((readText path).run.run w).2.Spares file w := by
  rw [run_readText]
  cases w.resolve path with
  | error fault => exact refl orderly
  | ok opened =>
      simp only
      cases readable : w.disk.readText opened with
      | error e => exact refl orderly
      | ok text => exact syncBuffer orderly readable

theorem openFile (orderly : w.Orderly) (path : String) :
    ((openFile path).run.run w).2.Spares file w := by
  have orderlyAfter := (openFile_steady orderly path).1.orderly
  rw [run_openFile] at orderlyAfter ⊢
  cases resolved : w.resolve path with
  | error fault => exact refl orderly
  | ok opened =>
      rw [resolved] at orderlyAfter
      simp only at orderlyAfter ⊢
      cases readable : w.disk.readText opened with
      | error e => exact refl orderly
      | ok text =>
          rw [readable] at orderlyAfter
          by_cases same : file = opened
          · subst same
            refine ⟨orderlyAfter, rfl, ?_⟩
            rintro b ⟨onDisk, synced⟩
            rw [readable] at onDisk
            cases onDisk
            simp only [synced]
            exact Stores.holds ⟨by simp, readable⟩
          · exact of_untouched orderlyAfter (.setBuffer same _)

theorem writeFile (has : w.Has file) {path : String} (apart : w.resolve path ≠ .ok file)
    (text : String) : ((writeFile path text).run.run w).2.Spares file w := by
  refine of_untouched (Steady.writeFile has.toOrderly path text).orderly ?_
  rw [run_writeFile]
  cases resolved : w.resolve path with
  | error fault => exact .refl file w
  | ok written =>
      have other : file ≠ written := by
        rintro rfl
        exact apart resolved
      have places := settle_ne (below_of_resolve resolved) has.inside other
      have made : { w with disk := (w.disk.makeDirectories written.dropLast).1 }.Untouched file w :=
        .setDisk fun _ readable => Tree.readText_makeDirectories readable written.dropLast
      have linkFree := has.linkFree.makeDirectories written.dropLast
      simp only
      rcases directories : w.disk.makeDirectories written.dropLast with ⟨disk, _ | e⟩
      · rw [directories] at made linkFree
        simp only
        cases wrote : disk.write written (.text text) with
        | error e => exact made
        | ok after =>
            have stored : { w with disk := after }.Untouched file w :=
              .trans (.write (w := { w with disk }) linkFree places wrote) made
            simp only
            split
            · exact .trans (.setBuffer other _) stored
            · exact stored
      · rw [directories] at made
        exact made

theorem setDisk (orderly : w.Orderly) {disk : Tree} (linkFree : disk.LinkFree)
    (same : disk.readText file = w.disk.readText file) : { w with disk }.Spares file w :=
  of_untouched ⟨⟨orderly.wellFormed, orderly.below⟩, linkFree⟩
    (.setDisk fun _ readable => same.trans readable)

end Spares

end Workspace

namespace Document

open Workspace (Has Holds Untouched Spares buffer?_setBuffer)

variable {d : Document} {w : Workspace} {file : Path} {b next : Buffer} {c : Change}

/-! ## Changes to the file itself -/

theorem run_change_held (opened : (w.buffer? d.file).isSome) (holds : w.Holds d.file b)
    (c : Change) : (d.change c).run.run w = d.finish (w.setBuffer d.file b) (b.change c) := by
  obtain ⟨old, held⟩ := Option.isSome_iff_exists.mp opened
  have synced := holds.2
  rw [held, Option.getD_some] at synced
  rw [run_change_readable held holds.1, synced]

/-- A change that makes another buffer of the file is written to the disk. -/
theorem change_made (opened : (w.buffer? d.file).isSome) (holds : w.Holds d.file b)
    (changed : b.change c = .ok (some next)) :
    ∃ u, (d.change c).run.run w = (.ok (), u) ∧ u.Stores d.file next := by
  obtain ⟨place, walked⟩ := Disk.Tree.readText_eq_ok.mp holds.1
  have written : (w.setBuffer d.file b).disk.write d.file (.text next.text)
      = .ok (w.disk.set place (.file (.text next.text))) :=
    Disk.Tree.write_walked walked (.text next.text)
  rw [run_change_held opened holds, changed, finish]
  simp only [written, Workspace.setBuffer_setBuffer]
  refine ⟨_, rfl, ?_, Disk.Tree.readText_set_walked walked next.text⟩
  have stored := buffer?_setBuffer w d.file next d.file
  rw [if_pos rfl] at stored
  exact stored

theorem change_idle (opened : (w.buffer? d.file).isSome) (holds : w.Holds d.file b)
    (idle : ∀ next, b.change c ≠ .ok (some next)) :
    ((d.change c).run.run w).2 = w.setBuffer d.file b := by
  rw [run_change_held opened holds]
  cases changed : b.change c with
  | error p => rfl
  | ok made =>
      cases made with
      | none => rfl
      | some next => exact absurd changed (idle next)

/-! ## Changes to other files -/

theorem refresh_untouched (d : Document) (w : Workspace) (apart : file ≠ d.file) :
    (d.refresh.run.run w).2.Untouched file w := by
  rw [run_refresh]
  split
  · exact .syncBuffer apart _
  · exact .refl file w
  · exact .refl file w

theorem finish_untouched (linkFree : w.disk.LinkFree) (apart : file ≠ d.file)
    (places : file.settle ≠ d.file.settle) (outcome : Except Edit.Position (Option Buffer)) :
    (d.finish w outcome).2.Untouched file w := by
  unfold finish
  split
  · exact .refl file w
  · exact .refl file w
  · rename_i b
    have stored : (w.setBuffer d.file b).Untouched file w := .setBuffer apart b
    split
    · exact stored
    · rename_i disk written
      exact Untouched.trans (.write (w := w.setBuffer d.file b) linkFree places written) stored

theorem change_untouched (has : w.Has file) (opened : (w.buffer? d.file).isSome)
    (apart : file ≠ d.file) (c : Change) : ((d.change c).run.run w).2.Untouched file w := by
  have places := Workspace.settle_ne (has.below d.file opened) has.inside apart
  have first := d.refresh_untouched w apart
  have linkFree := (refresh_steady (d := d) has.toOrderly).orderly.linkFree
  rw [run_change]
  rcases refreshed : d.refresh.run.run w with ⟨fault | done, u⟩
  · rw [refreshed] at first
    exact first
  · rw [refreshed] at first linkFree
    exact .trans (finish_untouched linkFree apart places _) first

/-- A change through a handle on another file spares the file, and so does one to the file itself
that is not made. -/
theorem change_spares (has : w.Has file) (opened : (w.buffer? d.file).isSome)
    (idle : d.file = file → ∀ b, w.Holds file b → ∀ next, b.change c ≠ .ok (some next)) :
    ((d.change c).run.run w).2.Spares file w := by
  have orderly := (change_steady has.toOrderly opened c).orderly
  by_cases same : file = d.file
  · subst same
    obtain ⟨text, readable⟩ := has.readable
    have holds := Holds.of_readable readable
    have left := change_idle opened holds (idle rfl _ holds)
    rw [left] at orderly ⊢
    refine ⟨orderly, rfl, ?_⟩
    intro b counts
    have onDisk := counts.1
    rw [readable] at onDisk
    cases onDisk
    rw [counts.2]
    exact Workspace.Stores.holds ⟨by simp, counts.1⟩
  · exact .of_untouched orderly (change_untouched has opened same c)

end Document

/-! ## Documents that are up to date -/

namespace Document

/-- The document is open, with a buffer that holds what its file has on the disk. -/
structure Fresh (d : Document) (w : Workspace) (text : String) : Prop where
  tidy : w.Tidy
  stored : ∃ b, w.Stores d.file b ∧ b.text = text

variable {d : Document} {w u : Workspace} {old new text : String} {range : Range}

namespace Fresh

theorem readable (fresh : d.Fresh w text) : w.disk.readText d.file = .ok text := by
  obtain ⟨b, stores, rfl⟩ := fresh.stored
  exact stores.2

theorem opened (fresh : d.Fresh w text) : (w.buffer? d.file).isSome := by
  obtain ⟨b, stores, -⟩ := fresh.stored
  rw [stores.1]
  rfl

theorem text_buffer (fresh : d.Fresh w text) : (d.buffer w).text = text := by
  obtain ⟨b, stores, rfl⟩ := fresh.stored
  rw [buffer, Workspace.buffer, stores.1, Option.getD_some]

theorem canonical (fresh : d.Fresh w text) : Canonical (d.buffer w).lines :=
  (fresh.tidy.wellFormed_buffer d.file).present

theorem lineCount_buffer (fresh : d.Fresh w text) :
    (d.buffer w).lineCount = Text.lineCount text := by
  rw [← Buffer.lineCount_text fresh.canonical, fresh.text_buffer]

theorem run_textIn (fresh : d.Fresh w text) {part : String}
    (between : textBetween? text range = some part) :
    (d.textIn range).run.run w = (.ok part, w) := by
  have found := Buffer.textIn_toOption fresh.canonical range
  rw [fresh.text_buffer, between] at found
  rw [Document.run_textIn]
  cases shown : (d.buffer w).textIn range with
  | error p =>
      rw [shown] at found
      cases found
  | ok other =>
      rw [shown] at found
      obtain rfl := Option.some.inj found
      rfl

theorem replace (fresh : d.Fresh w old) (spliced : splice? old range text = some new) :
    ∃ u, (d.replace range text).run.run w = (.ok (), u) ∧ d.Fresh u new := by
  obtain ⟨b, stores, rfl⟩ := fresh.stored
  have wellFormed := fresh.tidy.wellFormed d.file b stores.1
  have made := Buffer.replace_toOption wellFormed.present range text
  rw [spliced] at made
  cases replaced : b.replace range text with
  | error p =>
      rw [replaced] at made
      cases made
  | ok next =>
      rw [replaced] at made
      obtain rfl := Option.some.inj made
      have changed : b.change (.replace range text) = .ok (some _) :=
        congrArg (some <$> ·) replaced
      obtain ⟨u, ran, stored⟩ := change_made fresh.opened stores.holds changed
      have follows := change_follows fresh.tidy fresh.opened (.replace range text)
      rw [ran] at follows
      exact ⟨u, ran, follows.tidy, _, stored, Text.unlines_lines new⟩

theorem replace_refused (fresh : d.Fresh w old) (refused : splice? old range text = none) :
    ∃ fault u, (d.replace range text).run.run w = (.error fault, u) := by
  obtain ⟨b, stores, rfl⟩ := fresh.stored
  have wellFormed := fresh.tidy.wellFormed d.file b stores.1
  have made := Buffer.replace_toOption wellFormed.present range text
  rw [refused] at made
  cases replaced : b.replace range text with
  | ok next =>
      rw [replaced] at made
      cases made
  | error p =>
      have changed : b.change (.replace range text) = .error p := congrArg (some <$> ·) replaced
      have ran := run_change_held fresh.opened stores.holds (.replace range text)
      rw [changed] at ran
      exact ⟨_, _, ran⟩

end Fresh

end Document

/-! ## Files that are opened and written -/

namespace Workspace

variable {w u : Workspace} {path : String} {file : Path} {d : Document} {old : String}

theorem openFile_fresh (tidy : w.Tidy) (ran : (openFile path).run.run w = (.ok d, u)) :
    w.resolve path = .ok d.file ∧ u.disk = w.disk ∧ ∃ text, d.Fresh u text := by
  have tidied := (openFile_follows tidy path).1.tidy
  rw [ran] at tidied
  rw [run_openFile] at ran
  split at ran
  · cases ran
  · rename_i file resolved
    split at ran
    · cases ran
    · rename_i text readable
      cases ran
      refine ⟨resolved, rfl, text, tidied, ((w.buffer? file).getD (.ofText text)).sync text,
        ⟨by simp, ?_⟩, Buffer.text_sync _ text⟩
      rw [Buffer.text_sync]
      exact readable

theorem openFile_readable (resolved : w.resolve path = .ok file)
    (readable : w.disk.readText file = .ok old) :
    ∃ u, (openFile path).run.run w = (.ok ⟨path, file, .caret ⟨0, 0⟩⟩, u) := by
  rw [run_openFile, resolved]
  simp only [readable]
  exact ⟨_, rfl⟩

theorem writeFile_completed {text : String} (resolved : w.resolve path = .ok file)
    (ran : (writeFile path text).run.run w = (.ok (), u)) : u.disk.readText file = .ok text := by
  rw [run_writeFile, resolved] at ran
  simp only at ran
  split at ran
  · cases ran
  · split at ran
    · cases ran
    · rename_i disk wrote
      have written := Tree.readText_write wrote
      cases ran
      split
      · exact written
      · exact written

/-- A path that leads nowhere is the only reason to find nothing. -/
theorem missing_of_openFile {place : String}
    (ran : (openFile path).run.run w = (.error (.notFound place), u)) :
    u = w ∧ ∃ file, w.resolve path = .ok file ∧ w.disk.readText file = .error .notFound := by
  rw [run_openFile] at ran
  split at ran
  · rename_i fault refused
    cases ran
    unfold resolve at refused
    split at refused <;> cases refused
  · rename_i file resolved
    split at ran
    · rename_i e missing
      cases e with
      | notFound =>
          cases ran
          exact ⟨rfl, file, resolved, missing⟩
      | _ => cases ran
    · cases ran

end Workspace

end ReplyScript
