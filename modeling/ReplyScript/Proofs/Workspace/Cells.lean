import ReplyScript.Proofs.Workspace.Spares
import ReplyScript.Workspace.Cells

/-! # Cells of files

A desk whose handles hold cells comes to the same as one that looks buffers up by their files, since
no file ever gets a second cell. Each operation on cells mirrors the one on files step by step; main
statement: `CellDesk.run_keeps`.
-/

namespace ReplyScript

open Disk (Path Tree)
open Edit (Position Range Buffer Change)
open Effect

namespace CellWorkspace

variable {w : CellWorkspace} {file : Path} {cell : Nat}

/-- The workspace without cells: each file with what lies in its cell. -/
def view (w : CellWorkspace) : Workspace :=
  ⟨w.root, w.disk, w.cache.map (Prod.map id w.buffer)⟩

/-- The cells of files are there, and no two files have the same. -/
structure Sound (w : CellWorkspace) : Prop where
  valid : ∀ entry ∈ w.cache, entry.2 < w.cells.length
  apart : (w.cache.map Prod.snd).Nodup

/-- A sound workspace in which every file has the cell that it had in an earlier one. -/
structure Follows (w earlier : CellWorkspace) : Prop where
  sound : w.Sound
  root : w.root = earlier.root
  kept : ∀ file cell, earlier.cell? file = some cell → w.cell? file = some cell

/-! ## Cells and files -/

theorem mem_cache (held : w.cell? file = some cell) : (file, cell) ∈ w.cache := by
  obtain ⟨before, after, split, -⟩ := List.lookup_eq_some_iff.mp held
  rw [split]
  exact List.mem_append_right _ List.mem_cons_self

theorem Sound.inside (sound : w.Sound) (held : w.cell? file = some cell) :
    cell < w.cells.length :=
  sound.valid _ (mem_cache held)

theorem view_buffer? (w : CellWorkspace) (file : Path) :
    w.view.buffer? file = (w.cell? file).map w.buffer := by
  simp only [view, Workspace.buffer?, cell?]
  induction w.cache with
  | nil => rfl
  | cons entry rest ih =>
      obtain ⟨first, c⟩ := entry
      simp only [List.map_cons, Prod.map_apply, id_eq, List.lookup_cons, ih]
      split <;> rfl

theorem view_buffer (held : w.cell? file = some cell) :
    w.view.buffer? file = some (w.buffer cell) := by
  rw [view_buffer?, held]
  rfl

theorem buffer_setBuffer (inside : cell < w.cells.length) (b : Buffer) :
    (w.setBuffer cell b).buffer cell = b := by
  simp [setBuffer, buffer, inside]

theorem buffer_setBuffer_ne {other : Nat} (apart : other ≠ cell) (b : Buffer) :
    (w.setBuffer cell b).buffer other = w.buffer other := by
  simp [setBuffer, buffer, List.getElem?_set_ne (Ne.symm apart)]

theorem put_map {entries : List (Path × Nat)} (held : entries.lookup file = some cell)
    (apart : (entries.map Prod.snd).Nodup) (old new : Nat → Buffer)
    (same : ∀ other, other ≠ cell → new other = old other) :
    Keyed.put file (new cell) (entries.map (Prod.map id old)) = entries.map (Prod.map id new) := by
  -- Only the entry of the file has the cell, so the others may not see the new buffer.
  induction entries with
  | nil => cases held
  | cons entry rest ih =>
      obtain ⟨first, c⟩ := entry
      rw [List.map_cons, List.nodup_cons] at apart
      by_cases here : first = file
      · subst here
        rw [List.lookup_cons_self, Option.some.injEq] at held
        subst held
        simp only [List.map_cons, Prod.map_apply, id_eq, Keyed.put, if_true, List.cons.injEq,
          true_and]
        apply List.map_congr_left
        rintro ⟨other, d⟩ member
        have elsewhere : d ≠ c := by
          rintro rfl
          exact apart.1 (List.mem_map.mpr ⟨_, member, rfl⟩)
        simp only [Prod.map_apply, same d elsewhere]
      · have later : rest.lookup file = some cell := by
          rwa [List.lookup_cons, beq_false_of_ne (Ne.symm here)] at held
        have elsewhere : c ≠ cell := by
          rintro rfl
          obtain ⟨before, after, split, -⟩ := List.lookup_eq_some_iff.mp later
          apply apart.1
          rw [split]
          simp
        simp only [List.map_cons, Prod.map_apply, id_eq, Keyed.put, here, if_false,
          ih later apart.2, same c elsewhere]

theorem put_absent {entries : List (Path × Buffer)} (absent : entries.lookup file = none)
    (b : Buffer) : Keyed.put file b entries = entries ++ [(file, b)] := by
  induction entries with
  | nil => rfl
  | cons entry rest ih =>
      obtain ⟨first, old⟩ := entry
      by_cases here : first = file
      · subst here
        rw [List.lookup_cons_self] at absent
        cases absent
      · rw [List.lookup_cons, beq_false_of_ne (Ne.symm here)] at absent
        simp only [Keyed.put, here, if_false, ih absent, List.cons_append]

theorem view_setBuffer (sound : w.Sound) (held : w.cell? file = some cell) (b : Buffer) :
    (w.setBuffer cell b).view = w.view.setBuffer file b := by
  have stored := buffer_setBuffer (sound.inside held) b
  have put := put_map held sound.apart w.buffer (w.setBuffer cell b).buffer
    fun other apart => buffer_setBuffer_ne apart b
  rw [stored] at put
  unfold view Workspace.setBuffer
  rw [put]
  rfl

theorem buffer_add {other : Nat} (inside : other < w.cells.length) (text : String) :
    (w.add file text).buffer other = w.buffer other := by
  simp [add, buffer, List.getElem?_append_left inside]

theorem buffer_add_length (w : CellWorkspace) (file : Path) (text : String) :
    (w.add file text).buffer w.cells.length = .ofText text := by
  simp [add, buffer]

theorem cell?_add (absent : w.cell? file = none) (text : String) :
    (w.add file text).cell? file = some w.cells.length := by
  unfold cell? add
  rw [List.lookup_append, show w.cache.lookup file = none from absent]
  exact List.lookup_cons_self

theorem view_add (sound : w.Sound) (absent : w.cell? file = none) (text : String) :
    (w.add file text).view = w.view.setBuffer file (.ofText text) := by
  have missing : w.view.buffers.lookup file = none := by
    have same := view_buffer? w file
    rwa [absent] at same
  have kept : w.cache.map (Prod.map id (w.add file text).buffer) = w.view.buffers := by
    apply List.map_congr_left
    intro entry member
    rw [Prod.map, Prod.map, buffer_add (sound.valid _ member)]
  have cache : (w.add file text).view.buffers = w.view.buffers ++ [(file, .ofText text)] := by
    rw [← kept, ← buffer_add_length w file text]
    exact List.map_append
  unfold Workspace.setBuffer
  rw [put_absent missing, ← cache]
  rfl

theorem enter_absent (absent : w.cell? file = none) (text : String) :
    w.enter file text = (w.cells.length, w.add file text) := by
  unfold enter
  rw [absent]

theorem view_load (sound : w.Sound) (held : w.cell? file = some cell) (text : String) :
    w.view.syncBuffer file text = (w.setBuffer cell ((w.buffer cell).sync text)).view := by
  rw [Workspace.syncBuffer_held (view_buffer held), view_setBuffer sound held]

theorem view_load_absent (absent : w.cell? file = none) (text : String) :
    w.view.syncBuffer file text = w.view := by
  have missing := view_buffer? w file
  rw [absent] at missing
  unfold Workspace.syncBuffer
  rw [missing]
  rfl

namespace Follows

theorem refl (sound : w.Sound) : w.Follows w :=
  ⟨sound, rfl, fun _ _ held => held⟩

theorem trans {third second first : CellWorkspace} (late : third.Follows second)
    (early : second.Follows first) : third.Follows first :=
  ⟨late.sound, late.root.trans early.root,
    fun file cell held => late.kept file cell (early.kept file cell held)⟩

theorem setDisk (sound : w.Sound) (disk : Tree) : { w with disk }.Follows w :=
  ⟨⟨sound.valid, sound.apart⟩, rfl, fun _ _ held => held⟩

theorem setBuffer (sound : w.Sound) (cell : Nat) (b : Buffer) :
    (w.setBuffer cell b).Follows w where
  sound := by
    refine ⟨fun entry member => ?_, sound.apart⟩
    rw [CellWorkspace.setBuffer, List.length_set]
    exact sound.valid entry member
  root := rfl
  kept := fun _ _ held => held

theorem add (sound : w.Sound) (file : Path) (text : String) : (w.add file text).Follows w where
  sound := by
    have valid : ∀ entry ∈ (w.add file text).cache, entry.2 < (w.add file text).cells.length := by
      intro entry member
      rw [CellWorkspace.add, List.length_append, List.length_singleton]
      rcases List.mem_append.mp member with member | member
      · exact Nat.lt_succ_of_lt (sound.valid entry member)
      · rw [List.mem_singleton.mp member]
        exact Nat.lt_succ_self _
    refine ⟨valid, ?_⟩
    rw [CellWorkspace.add, List.map_append, List.map_singleton, List.nodup_append]
    refine ⟨sound.apart, List.pairwise_singleton _ _, ?_⟩
    intro cell member fresh last
    obtain ⟨entry, inside, rfl⟩ := List.mem_map.mp member
    rw [List.mem_singleton.mp last]
    exact Nat.ne_of_lt (sound.valid entry inside)
  root := rfl
  kept := by
    intro other cell held
    unfold cell? CellWorkspace.add
    rw [List.lookup_append, show w.cache.lookup other = some cell from held, Option.some_or]

theorem restart (sound : w.Sound) (file : Path) (text : String) :
    (w.restart file text).Follows w := by
  unfold CellWorkspace.restart
  cases w.cell? file with
  | some cell => exact setBuffer sound cell _
  | none => exact refl sound

end Follows

theorem view_restart (sound : w.Sound) (file : Path) (text : String) :
    (if (w.view.buffer? file).isSome then w.view.setBuffer file (.ofText text) else w.view)
      = (w.restart file text).view := by
  rw [view_buffer?]
  unfold restart
  cases held : w.cell? file with
  | some cell => exact (view_setBuffer sound held _).symm
  | none => rfl

/-! ## Operations -/

/-- An operation on cells comes to the same as one on buffers, and leaves files their cells. -/
structure Mirrors (w : CellWorkspace) (op : CellM α) (plain : WorkspaceM β) (show_ : α → β) :
    Prop where
  same : plain.run.run w.view = ((op.run.run w).1.map show_, (op.run.run w).2.view)
  follows : (op.run.run w).2.Follows w

namespace Mirrors

variable {α β γ δ : Type} {show_ : α → β}

theorem pure (sound : w.Sound) {a : α} {b : β} (same : show_ a = b) :
    Mirrors w (Pure.pure a) (Pure.pure b) show_ := by
  subst same
  exact ⟨rfl, .refl sound⟩

theorem throw (sound : w.Sound) (fault : Fault) :
    Mirrors w (throw fault : CellM α) (throw fault : WorkspaceM β) show_ :=
  ⟨rfl, .refl sound⟩

theorem get {op : CellWorkspace → CellM α} {plain : Workspace → WorkspaceM β}
    (rest : Mirrors w (op w) (plain w.view) show_) :
    Mirrors w (MonadState.get >>= op) (MonadState.get >>= plain) show_ := by
  obtain ⟨same, follows⟩ := rest
  constructor
  · rw [run_bind, run_bind]
    exact same
  · rw [run_bind]
    exact follows

theorem bind {first : CellM α} {plainFirst : WorkspaceM β} {next : α → CellM γ}
    {plainNext : β → WorkspaceM δ} {showNext : γ → δ} (head : Mirrors w first plainFirst show_)
    (tail : ∀ a u, first.run.run w = (.ok a, u) → u.Follows w →
      Mirrors u (next a) (plainNext (show_ a)) showNext) :
    Mirrors w (first >>= next) (plainFirst >>= plainNext) showNext := by
  obtain ⟨same, follows⟩ := head
  rcases ran : first.run.run w with ⟨fault | a, u⟩
  · rw [ran] at same follows
    constructor
    · rw [run_bind, run_bind, same, ran]
      rfl
    · rw [run_bind, ran]
      exact follows
  · rw [ran] at same follows
    obtain ⟨rest, later⟩ := tail a u ran follows
    constructor
    · rw [run_bind, run_bind, same, ran]
      exact rest
    · rw [run_bind, ran]
      exact later.trans follows

theorem modify {f : CellWorkspace → CellWorkspace} {plain : Workspace → Workspace}
    (same : plain w.view = (f w).view) (follows : (f w).Follows w) :
    Mirrors w (modify f : CellM Unit) (modify plain) id :=
  ⟨by rw [run_modify, run_modify, same]; rfl, follows⟩

theorem set {u : CellWorkspace} {plain : Workspace} (same : plain = u.view) (follows : u.Follows w) :
    Mirrors w (MonadStateOf.set u : CellM PUnit) (MonadStateOf.set plain) id :=
  ⟨by rw [same]; rfl, follows⟩

end Mirrors

theorem resolve_view (w : CellWorkspace) (path : String) : w.view.resolve path = w.resolve path :=
  rfl

theorem disk_view (w : CellWorkspace) : w.view.disk = w.disk :=
  rfl

theorem run_locate (w : CellWorkspace) (path : String) :
    (locate path).run.run w = (w.resolve path, w) := by
  unfold locate
  simp only [run_bind, run_get]
  cases w.resolve path <;> rfl

theorem mirrors_locate (sound : w.Sound) (path : String) :
    Mirrors w (locate path) (Workspace.locate path) id := by
  refine .get ?_
  rw [resolve_view]
  cases w.resolve path with
  | ok file => exact .pure sound rfl
  | error fault => exact .throw sound fault

theorem mirrors_writeDisk (sound : w.Sound) (path : String) (file : Path) (text : String) :
    Mirrors w (writeDisk path file text) (Workspace.writeDisk path file text) id := by
  refine .get ?_
  rw [disk_view]
  cases w.disk.write file (.text text) with
  | ok disk => exact .modify rfl (.setDisk sound disk)
  | error e => exact .throw sound _

theorem mirrors_listDirectory (sound : w.Sound) (path : String) :
    Mirrors w (listDirectory path) (Workspace.listDirectory path) id := by
  refine .bind (mirrors_locate sound path) fun file u _ follows => ?_
  refine .get ?_
  rw [disk_view, id]
  cases u.disk.list file with
  | ok entries => exact .pure follows.sound rfl
  | error e => exact .throw follows.sound _

theorem mirrors_readText (sound : w.Sound) (path : String) :
    Mirrors w (readText path) (Workspace.readText path) id := by
  refine .bind (mirrors_locate sound path) fun file u _ follows => ?_
  refine .get ?_
  simp only [Workspace.load, disk_view, load, id]
  cases held : u.cell? file with
  | some cell =>
      cases u.disk.readText file with
      | ok text =>
          refine .bind (.set (view_load follows.sound held text) (.setBuffer follows.sound _ _)) ?_
          exact fun _ v _ later => .pure later.sound rfl
      | error e => exact .throw follows.sound _
  | none =>
      cases u.disk.readText file with
      | ok text =>
          simp only [view_load_absent held]
          exact ⟨rfl, .refl follows.sound⟩
      | error e => exact .throw follows.sound _

theorem mirrors_openFile (sound : w.Sound) (path : String) :
    Mirrors w (openFile path) (Workspace.openFile path) CellDocument.toDocument := by
  refine .bind (mirrors_locate sound path) fun file u _ follows => ?_
  refine .get ?_
  simp only [Workspace.load, disk_view, load, id]
  cases held : u.cell? file with
  | some cell =>
      cases u.disk.readText file with
      | ok text =>
          have opened : (u.view.syncBuffer file text).buffer? file
              = some ((u.buffer cell).sync text) := by
            rw [Workspace.syncBuffer_held (view_buffer held), Workspace.buffer?_setBuffer,
              if_pos rfl]
          simp only [opened, Option.isSome_some, if_true]
          refine .bind (.set (view_load follows.sound held text) (.setBuffer follows.sound _ _)) ?_
          exact fun _ v _ later => .pure later.sound rfl
      | error e => exact .throw follows.sound _
  | none =>
      -- The file gets a cell, and the buffer is that of the text which was just read.
      cases u.disk.readText file with
      | ok text =>
          have missing : u.view.buffer? file = none := by
            rw [view_buffer?, held]
            rfl
          simp only [view_load_absent held, missing, Option.isSome_none, Bool.false_eq_true,
            if_false, enter_absent held]
          have added := (view_add follows.sound held text).symm
          refine .bind (.set added (.add follows.sound file text)) ?_
          exact fun _ v _ later => .pure later.sound rfl
      | error e => exact .throw follows.sound _

theorem openFile_opens {d : CellDocument} {u : CellWorkspace} {path : String}
    (opened : (openFile path).run.run w = (.ok d, u)) :
    w.resolve path = .ok d.file ∧ d.path = path ∧ u.cell? d.file = some d.cell := by
  unfold openFile at opened
  simp only [run_bind, run_locate, run_get] at opened
  cases resolved : w.resolve path with
  | error fault =>
      rw [resolved] at opened
      cases opened
  | ok file =>
      simp only [resolved] at opened
      cases held : w.cell? file with
      | some cell =>
          simp only [held, load] at opened
          cases readable : w.disk.readText file with
          | error e =>
              rw [readable] at opened
              cases opened
          | ok text =>
              simp only [readable, run_bind, run_set, run_pure] at opened
              cases opened
              exact ⟨rfl, rfl, held⟩
      | none =>
          simp only [held, enter_absent held] at opened
          cases readable : w.disk.readText file with
          | error e =>
              rw [readable] at opened
              cases opened
          | ok text =>
              simp only [readable, run_bind, run_set, run_pure] at opened
              cases opened
              exact ⟨rfl, rfl, cell?_add held text⟩

theorem mirrors_writeFile (sound : w.Sound) (path text : String) :
    Mirrors w (writeFile path text) (Workspace.writeFile path text) id := by
  refine .bind (mirrors_locate sound path) fun file u _ follows => ?_
  refine .get ?_
  rw [disk_view, id]
  rcases u.disk.makeDirectories file.dropLast with ⟨disk, _ | e⟩
  · refine .bind (.modify rfl (.setDisk follows.sound disk)) fun _ v _ follows => ?_
    refine .bind (mirrors_writeDisk follows.sound path file text) fun _ v _ follows => ?_
    exact .modify (view_restart follows.sound file text) (.restart follows.sound file text)
  · refine .bind (.modify rfl (.setDisk follows.sound disk)) fun _ v _ follows => ?_
    exact .throw follows.sound _

end CellWorkspace

namespace CellDocument

open CellWorkspace

variable {w : CellWorkspace} {d : CellDocument}

theorem view_buffer (held : w.cell? d.file = some d.cell) :
    d.toDocument.buffer w.view = d.buffer w := by
  unfold Document.buffer Workspace.buffer
  rw [CellWorkspace.view_buffer held]
  rfl

theorem mirrors_refresh (sound : w.Sound) (held : w.cell? d.file = some d.cell) :
    Mirrors w d.refresh d.toDocument.refresh id := by
  refine .get ?_
  simp only [Workspace.load, disk_view, load]
  rcases w.disk.readText d.file with e | text
  · cases e with
    | notFound => exact .pure sound rfl
    | _ => exact .throw sound _
  · exact .set (view_load sound held text) (.setBuffer sound _ _)

theorem mirrors_become (sound : w.Sound) (held : w.cell? d.file = some d.cell) (b : Buffer) :
    Mirrors w (d.become b) (d.toDocument.become b) id := by
  have changed := (view_setBuffer sound held b).symm
  refine .bind (.modify changed (.setBuffer sound d.cell b)) fun _ u _ follows => ?_
  refine .get ?_
  rw [view_buffer (follows.kept _ _ held)]
  exact mirrors_writeDisk follows.sound d.path d.file _

theorem outOfRange_view (held : w.cell? d.file = some d.cell) (p : Position) :
    d.toDocument.outOfRange w.view p = d.outOfRange w p := by
  unfold Document.outOfRange Document.lineCount
  rw [view_buffer held]
  rfl

theorem mirrors_replace (sound : w.Sound) (held : w.cell? d.file = some d.cell) {c : Change}
    {range : Range} {text : String}
    (replaces : ∀ b : Buffer, b.change c = some <$> b.replace range text) :
    Mirrors w (d.change c) (d.toDocument.replace range text) id := by
  refine .bind (mirrors_refresh sound held) fun _ u _ follows => ?_
  have kept := follows.kept _ _ held
  refine .get ?_
  simp only [replaces, view_buffer kept, outOfRange_view kept]
  cases (d.buffer u).replace range text with
  | ok b => exact mirrors_become follows.sound kept b
  | error p => exact .throw follows.sound _

theorem mirrors_turn (sound : w.Sound) (held : w.cell? d.file = some d.cell) {c : Change}
    {version : Buffer → Option Buffer} (turns : ∀ b : Buffer, b.change c = .ok (version b)) :
    Mirrors w (d.change c) (d.toDocument.turn version) id := by
  refine .bind (mirrors_refresh sound held) fun _ u _ follows => ?_
  have kept := follows.kept _ _ held
  refine .get ?_
  rw [turns, view_buffer kept]
  cases version (d.buffer u) with
  | some b => exact mirrors_become follows.sound kept b
  | none => exact .pure follows.sound rfl

theorem mirrors_change (sound : w.Sound) (held : w.cell? d.file = some d.cell) (c : Change) :
    Mirrors w (d.change c) (d.toDocument.change c) id := by
  cases c with
  | insert p text => exact mirrors_replace sound held fun _ => rfl
  | replace range text => exact mirrors_replace sound held fun _ => rfl
  | delete range => exact mirrors_replace sound held fun _ => rfl
  | undo => exact mirrors_turn sound held fun _ => rfl
  | redo => exact mirrors_turn sound held fun _ => rfl

end CellDocument

namespace CellDesk

open CellWorkspace

/-- The desk without cells. -/
def view (desk : CellDesk) : Desk :=
  ⟨desk.workspace.view, desk.handles.map (·.toDocument)⟩

/-- Every handle has the cell of its file, which is the file that its path leads to. -/
structure Sound (desk : CellDesk) : Prop where
  workspace : desk.workspace.Sound
  cells : ∀ d ∈ desk.handles, desk.workspace.cell? d.file = some d.cell
  files : ∀ d ∈ desk.handles, desk.workspace.resolve d.path = .ok d.file

variable {desk : CellDesk}

theorem resolve_of_root {w u : CellWorkspace} (same : u.root = w.root) (path : String) :
    u.resolve path = w.resolve path := by
  unfold CellWorkspace.resolve
  exact Workspace.resolve_of_root same path

theorem Sound.follows (sound : desk.Sound) {w : CellWorkspace} (follows : w.Follows desk.workspace) :
    Sound { desk with workspace := w } where
  workspace := follows.sound
  cells := fun d member => follows.kept _ _ (sound.cells d member)
  files := by
    intro d member
    rw [resolve_of_root follows.root]
    exact sound.files d member

/-- What a happening does comes to the same with and without cells. -/
structure Keeps (desk next : CellDesk) (happening : Happening) : Prop where
  sound : next.Sound
  same : next.view = desk.view.step happening

theorem Keeps.of_mirrors (sound : desk.Sound) {op : CellM α} {plain : WorkspaceM β} {show_ : α → β}
    (mirrors : Mirrors desk.workspace op plain show_) {happening : Happening}
    (does : desk.view.step happening = desk.view.after plain) :
    desk.Keeps (desk.after op) happening where
  sound := sound.follows mirrors.follows
  same := by
    unfold view CellDesk.after at *
    rw [does, Desk.after, mirrors.same]

theorem keeps_opens (sound : desk.Sound) (path : String) :
    desk.Keeps (desk.step (.opens path)) (.opens path) := by
  obtain ⟨same, follows⟩ := mirrors_openFile sound.workspace path
  have plain : desk.view.workspace = desk.workspace.view := rfl
  rcases ran : (openFile path).run.run desk.workspace with ⟨fault | d, w⟩
  · rw [ran] at same follows
    simp only [step, ran]
    refine ⟨sound.follows follows, ?_⟩
    simp only [Desk.step, plain, same]
    rfl
  · rw [ran] at same follows
    obtain ⟨resolved, rfl, held⟩ := openFile_opens ran
    have before := sound.follows follows
    simp only [step, ran]
    refine ⟨⟨follows.sound, ?_, ?_⟩, ?_⟩
    · exact List.forall_mem_append.mpr ⟨before.cells, List.forall_mem_singleton.mpr held⟩
    · refine List.forall_mem_append.mpr ⟨before.files, List.forall_mem_singleton.mpr ?_⟩
      rwa [resolve_of_root follows.root]
    · simp only [Desk.step, plain, same]
      exact congrArg (Desk.mk w.view) List.map_append

theorem keeps_selects (sound : desk.Sound) (i : Nat) (range : Range) :
    desk.Keeps (desk.step (.selects i range)) (.selects i range) := by
  have kept : ∀ d ∈ (desk.step (.selects i range)).handles,
      ∃ e ∈ desk.handles, d.path = e.path ∧ d.file = e.file ∧ d.cell = e.cell := by
    intro d member
    obtain ⟨j, found⟩ := List.getElem?_of_mem member
    simp only [step, List.getElem?_modify] at found
    obtain ⟨e, held, rfl⟩ := Option.map_eq_some_iff.mp found
    refine ⟨e, List.mem_of_getElem? held, ?_⟩
    split <;> exact ⟨rfl, rfl, rfl⟩
  refine ⟨⟨sound.workspace, ?_, ?_⟩, ?_⟩
  · intro d member
    obtain ⟨e, inside, -, file, cell⟩ := kept d member
    rw [file, cell]
    exact sound.cells e inside
  · intro d member
    obtain ⟨e, inside, path, file, -⟩ := kept d member
    rw [path, file]
    exact sound.files e inside
  · refine congrArg (Desk.mk desk.workspace.view) (List.ext_getElem? fun j => ?_)
    simp only [step, view, List.getElem?_map, List.getElem?_modify]
    cases desk.handles[j]? with
    | none => rfl
    | some d =>
        simp only [Option.map_eq_map, Option.map_some]
        split <;> rfl

theorem keeps_changes (sound : desk.Sound) (i : Nat) (c : Change) :
    desk.Keeps (desk.step (.changes i c)) (.changes i c) := by
  have found : desk.view.handles[i]? = desk.handles[i]?.map (·.toDocument) := List.getElem?_map
  cases handle : desk.handles[i]? with
  | some d =>
      have held := sound.cells d (List.mem_of_getElem? handle)
      simp only [step, handle]
      refine .of_mirrors sound (CellDocument.mirrors_change sound.workspace held c) ?_
      simp only [Desk.step, found, handle, Option.map_some]
  | none =>
      simp only [step, handle]
      refine ⟨sound, ?_⟩
      simp only [Desk.step, found, handle, Option.map_none]

theorem step_keeps (sound : desk.Sound) (happening : Happening) :
    desk.Keeps (desk.step happening) happening := by
  cases happening with
  | opens path => exact keeps_opens sound path
  | reads path => exact .of_mirrors sound (mirrors_readText sound.workspace path) rfl
  | writes path text => exact .of_mirrors sound (mirrors_writeFile sound.workspace path text) rfl
  | lists path => exact .of_mirrors sound (mirrors_listDirectory sound.workspace path) rfl
  | selects i range => exact keeps_selects sound i range
  | changes i c => exact keeps_changes sound i c
  | outside disk => exact ⟨sound.follows (.setDisk sound.workspace disk), rfl⟩

theorem run_keeps (sound : desk.Sound) (happenings : List Happening) :
    (desk.run happenings).Sound ∧ (desk.run happenings).view = desk.view.run happenings := by
  induction happenings generalizing desk with
  | nil => exact ⟨sound, rfl⟩
  | cons happening rest ih =>
      obtain ⟨after, same⟩ := step_keeps sound happening
      obtain ⟨later, agrees⟩ := ih after
      rw [same] at agrees
      exact ⟨later, agrees⟩

theorem sound_ofDisk (root : Path) (disk : Tree) : (ofDisk root disk).Sound :=
  ⟨⟨nofun, .nil⟩, nofun, nofun⟩

end CellDesk

end ReplyScript
