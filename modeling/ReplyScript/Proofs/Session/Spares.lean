import ReplyScript.Proofs.Edit.PlainText
import ReplyScript.Proofs.Session.Operations
import ReplyScript.Proofs.World.Spares
import ReplyScript.Session.Batch

/-! # Commands that do not write a file

A file keeps its text, and the history that its buffer has of it, when a command is performed that
does not write the file. Main statement: `Script.Command.spares`.
-/

namespace ReplyScript

open Disk (Path)
open Edit (Buffer Change Position Range)
open Effect Scene
open Script (Command)

/-! ## Insertions are shown -/

theorem run_insertionWindow_inside {d : Document} {w : Workspace} {line : Nat}
    (inside : line < d.lineCount w) (text : String) :
    (insertionWindow d line text).run.run w
      = (.ok (Text.unlines (((d.buffer w).lines.take
          (min (line + Text.lineCount text + windowMargin) (d.lineCount w - 1) + 1)).drop
            (line - windowMargin))), w) := by
  have within : min (line + Text.lineCount text + windowMargin) (d.lineCount w - 1)
      < (d.buffer w).lines.length := by
    unfold Document.lineCount Buffer.lineCount at inside ⊢
    omega
  have ordered : line - windowMargin
      ≤ min (line + Text.lineCount text + windowMargin) (d.lineCount w - 1) := by
    omega
  have found := List.getElem?_eq_getElem within
  have shown := Buffer.textIn_lines ordered found
  unfold insertionWindow
  simp only [run_bind, run_get, Document.run_lineText, found, Document.run_textIn, shown]

theorem shown_after_insert {d : Document} {w : Workspace} {b next : Buffer} {position : Position}
    {text : String} (stored : w.Stores d.file next)
    (changed : b.change (.insert position text) = .ok (some next)) :
    ∃ window, (insertionWindow d position.line text).run.run w = (.ok window, w) := by
  refine ⟨_, run_insertionWindow_inside ?_ text⟩
  unfold Document.lineCount Document.buffer Workspace.buffer
  rw [stored.1, Option.getD_some]
  cases replaced : b.replace (.caret position) text with
  | error p =>
      simp only [Buffer.change, replaced] at changed
      cases changed
  | ok made =>
      simp only [Buffer.change, replaced] at changed
      cases changed
      have inside := Buffer.lt_lineCount_of_replace replaced
      rw [Range.normalized_caret] at inside
      exact inside

variable {file : Path} {α β : Type}

/-! ## Steps of actions -/

/-- A file that is there is spared by the operation. -/
def Keeps (file : Path) (op : SceneM α) (s : Scene) : Prop :=
  s.world.workspace.Has file →
    (op.run.run s).2.world.workspace.Spares file s.world.workspace

section

variable {x : SceneM α} {f : α → SceneM β} {s t : Scene} {i : Instruction}

theorem keeps_still {op : SceneM α}
    (still : (op.run.run s).2.world.workspace = s.world.workspace) : Keeps file op s := by
  intro has
  rw [still]
  exact .refl has.toOrderly

theorem keeps_bind (first : Keeps file x s)
    (rest : ∀ a t, x.run.run s = (.ok a, t) → t.world.workspace.Spares file s.world.workspace →
      Keeps file (f a) t) : Keeps file (x >>= f) s := by
  intro has
  have early := first has
  rw [run_bind]
  rcases ran : x.run.run s with ⟨e | a, t⟩
  · rw [ran] at early
    exact early
  · rw [ran] at early
    exact (rest a t ran early (early.has has)).trans early

theorem keeps_attempt {op : WorldM α} (keeps : World.Keeps file op s.world) :
    Keeps file (attempt op) s :=
  keeps

theorem keeps_demand {op : WorldM α} (keeps : World.Keeps file op s.world) :
    Keeps file (demand i op) s := by
  intro has
  rw [workspace_demand]
  exact keeps has

theorem workspace_bind_still
    (still : ∀ a t, ((f a).run.run t).2.world.workspace = t.world.workspace) :
    ((x >>= f).run.run s).2.world.workspace = (x.run.run s).2.world.workspace := by
  rw [run_bind]
  rcases x.run.run s with ⟨e | a, t⟩
  · rfl
  · exact still a t

theorem keeps_probe {op : WorldM α} (keeps : World.Keeps file op s.world) :
    Keeps file (probe i op) s := by
  intro has
  rw [workspace_probe]
  exact keeps has

/-- What a looking action does: ask a service, and tell the model. -/
theorem keeps_looking {op : WorldM α} {f : Except String α → SceneM Unit}
    (keeps : World.Keeps file op s.world)
    (tells : ∀ result t, ((f result).run.run t).2.world.workspace = t.world.workspace) :
    Keeps file (probe i op >>= f) s :=
  keeps_bind (keeps_probe keeps) fun result t _ _ => keeps_still (tells result t)

theorem keeps_activeDocument : Keeps file (activeDocument i) s := by
  apply keeps_still
  rw [run_activeDocument]
  cases s.session.active <;> rfl

theorem keeps_textIn (d : Document) (range : Range) :
    Keeps file (demand i (World.inWorkspace (d.textIn range))) s :=
  keeps_demand (World.keeps_still
    (s.world.workspace_inWorkspace_of_still (d.run_textIn_state · range)))

theorem demand_still {op : WorldM α} {a : α}
    (still : (op.run.run s.world).2.workspace = s.world.workspace)
    (ran : (demand i op).run.run s = (.ok a, t)) : t.world.workspace = s.world.workspace := by
  obtain ⟨world, done, rfl⟩ := demand_completed ran
  rw [done] at still
  exact still

theorem completes_inWorkspace {op : WorkspaceM α} {a : α} {b : β} {workspace : Workspace}
    (ran : op.run.run s.world.workspace = (.ok a, workspace))
    (rest : ((f a).run.run { s with world := { s.world with workspace } }).1 = .ok b) :
    ((demand i (World.inWorkspace op) >>= f).run.run s).1 = .ok b :=
  completes_bind (demand_of_completed (World.inWorkspace_of_completed ran)) rest

/-- A change that is the last step of an action: the file is spared if it is another one, or if the
action fails. -/
theorem keeps_change {d : Document} {c : Change}
    (opened : (s.world.workspace.buffer? d.file).isSome)
    (fails : d.file = file →
      ∀ u, (demand i (World.inWorkspace (d.change c))).run.run s ≠ (.ok (), u)) :
    Keeps file (demand i (World.inWorkspace (d.change c))) s := by
  refine keeps_demand (World.keeps_change opened ?_)
  rintro rfl b holds next changed
  obtain ⟨u, made, -⟩ := Document.change_made opened holds changed
  exact fails rfl _ (demand_of_completed (World.inWorkspace_of_completed made))

theorem demand_openFile_completed {path : String} {d : Document}
    (ran : (demand i (World.openFile path)).run.run s = (.ok d, t)) :
    s.world.workspace.resolve path = .ok d.file ∧ (t.world.workspace.buffer? d.file).isSome := by
  obtain ⟨world, opened, rfl⟩ := demand_completed ran
  exact World.openFile_completed opened

end

/-! ## Actions that write files -/

/-- The action comes to its end in the scene. -/
def Action.Completes (a : Action) (s : Scene) : Prop :=
  (a.perform.run.run s).1 = .ok ()

/-- The active document is of the file, and there is another version of it to turn to. -/
def Scene.CanTurn (s : Scene) (file : Path) (version : Buffer → Option Buffer) : Prop :=
  ∃ d b, s.session.active = some d ∧ d.file = file ∧ s.world.workspace.Holds file b
    ∧ (version b).isSome

/-- The service that opens files says that a file is missing, whether it is or not, and it can be
created. -/
def Scene.CreatesOpened (s : Scene) : Prop :=
  (∃ missing, s.world.fault? .openFile = some (.notFound missing)) ∧ s.world.fault? .write = none

/-- The action writes the file, in the scene. -/
def Action.Writes (file : Path) (s : Scene) (a : Action) : Prop :=
  match a with
  | .createFile path =>
      s.world.workspace.resolve path = .ok file ∧ s.world.fault? .write = none
  | .input path _ _ =>
      s.world.workspace.resolve path = .ok file ∧ (a.Completes s ∨ s.CreatesOpened)
  | .replace path _ _ | .cut path _ | .paste path _ =>
      s.world.workspace.resolve path = .ok file ∧ a.Completes s
  | .undo => s.CanTurn file Buffer.undo?
  | .redo => s.CanTurn file Buffer.redo?
  | _ => False

section

variable {s t : Scene}

theorem keeps_replace {path : String} {range : Range} {text : String}
    (spared : ¬ (Action.replace path range text).Writes file s) :
    Keeps file (performReplace path range text) s := by
  refine keeps_bind (keeps_demand (World.keeps_openFile path)) ?_
  intro d t ran _
  obtain ⟨resolved, opened⟩ := demand_openFile_completed ran
  refine keeps_bind (keeps_still rfl) ?_
  intro done u activated _
  cases activated
  refine keeps_change (c := .replace range text) opened ?_
  rintro rfl u completed
  refine spared ⟨resolved, ?_⟩
  have last := congrArg Prod.fst completed
  exact completes_bind ran (completes_bind (run_activate t d) last)

theorem keeps_copyRange (i : Instruction) (path : String) (range : Range) :
    Keeps file (copyRange i path range) s := by
  refine keeps_bind (keeps_demand (World.keeps_openFile path)) ?_
  intro d t _ _
  refine keeps_bind (keeps_textIn d range) ?_
  intro text u _ _
  refine keeps_bind (keeps_demand (World.keeps_still (u.world.workspace_writeClipboard text))) ?_
  intro done v _ _
  exact keeps_still rfl

theorem copyRange_completed {i : Instruction} {path : String} {range : Range} {d : Document}
    (ran : (copyRange i path range).run.run s = (.ok d, t)) :
    s.world.workspace.resolve path = .ok d.file ∧ (t.world.workspace.buffer? d.file).isSome := by
  obtain ⟨opened, u, first, rest⟩ := bind_completed ran
  obtain ⟨resolved, isOpen⟩ := demand_openFile_completed first
  obtain ⟨text, v, shown, rest⟩ := bind_completed rest
  obtain ⟨done, w, copied, rest⟩ := bind_completed rest
  cases rest
  refine ⟨resolved, ?_⟩
  rw [demand_still (v.world.workspace_writeClipboard text) copied,
    demand_still (u.world.workspace_inWorkspace_of_still (d.run_textIn_state · range)) shown]
  exact isOpen

theorem keeps_cut {path : String} {range : Range}
    (spared : ¬ (Action.cut path range).Writes file s) : Keeps file (performCut path range) s := by
  refine keeps_bind keeps_activeDocument ?_
  intro active t begun _
  obtain ⟨-, rfl⟩ := activeDocument_completed begun
  refine keeps_bind (keeps_copyRange .cut path range) ?_
  intro d u ran _
  obtain ⟨resolved, opened⟩ := copyRange_completed ran
  refine keeps_change (c := .delete range) opened ?_
  rintro rfl v completed
  refine spared ⟨resolved, ?_⟩
  have last := congrArg Prod.fst completed
  exact completes_bind begun (completes_bind ran last)

theorem keeps_paste {path : String} {position : Position}
    (spared : ¬ (Action.paste path position).Writes file s) :
    Keeps file (performPaste path position) s := by
  refine keeps_bind keeps_activeDocument ?_
  intro active t begun _
  obtain ⟨-, rfl⟩ := activeDocument_completed begun
  refine keeps_bind (keeps_demand (World.keeps_openFile path)) ?_
  intro d u ran _
  obtain ⟨resolved, opened⟩ := demand_openFile_completed ran
  have still := u.world.workspace_readClipboard
  refine keeps_bind (keeps_demand (World.keeps_still still)) ?_
  intro text v read _
  rw [← demand_still still read] at opened
  refine keeps_bind (keeps_still rfl) ?_
  intro done x activated _
  cases activated
  refine keeps_change (c := .insert position text) opened ?_
  rintro rfl y completed
  refine spared ⟨resolved, ?_⟩
  have last := congrArg Prod.fst completed
  exact completes_bind begun (completes_bind ran (completes_bind read
    (completes_bind (run_activate v d) last)))

theorem openForInput_completed {path : String} {d : Document}
    (ran : (openForInput path).run.run s = (.ok d, t)) :
    s.world.workspace.resolve path = .ok d.file ∧ (t.world.workspace.buffer? d.file).isSome := by
  obtain ⟨result, u, first, rest⟩ := bind_completed ran
  rw [run_attempt] at first
  have early := World.root_openFile s.world path
  rcases opened : (World.openFile path).run.run s.world with ⟨fault | other, world⟩
  · rw [opened] at first early
    cases first
    cases fault with
    | notFound missing =>
        obtain ⟨done, v, created, again⟩ := bind_completed rest
        obtain ⟨world', wrote, rfl⟩ := demand_completed created
        have late := World.root_writeFile world path ""
        rw [wrote] at late
        obtain ⟨resolved, isOpen⟩ := demand_openFile_completed again
        rw [Workspace.resolve_of_root (late.trans early)] at resolved
        exact ⟨resolved, isOpen⟩
    | _ => cases rest
  · rw [opened] at first
    cases first
    cases rest
    exact World.openFile_completed opened

theorem openFile_has {path : String} (has : s.world.workspace.Has file)
    (resolved : s.world.workspace.resolve path = .ok file)
    (works : s.world.fault? .openFile = none) :
    ∃ d world, (World.openFile path).run.run s.world = (.ok d, world) := by
  obtain ⟨text, readable⟩ := has.readable
  rw [World.run_openFile, works, Workspace.run_openFile, resolved]
  simp only [readable]
  exact ⟨_, _, rfl⟩

theorem keeps_openForInput {path : String}
    (spared : s.world.workspace.resolve path = .ok file → ¬ s.CreatesOpened) :
    Keeps file (openForInput path) s := by
  intro has
  refine keeps_bind (keeps_attempt (World.keeps_openFile path)) ?_ has
  intro result t ran early
  cases result with
  | ok d => exact keeps_still rfl
  | error fault =>
      cases fault with
      | notFound missing =>
          refine keeps_bind (keeps_demand (World.keeps_writeFile ?_)) ?_
          · intro allowed resolved
            rw [Workspace.resolve_of_root early.root] at resolved
            rw [run_attempt] at ran
            cases refused : s.world.fault? .openFile with
            | none =>
                obtain ⟨d, world, opened⟩ := openFile_has has resolved refused
                rw [opened] at ran
                cases ran
            | some fault =>
                rw [World.run_openFile, refused] at ran
                cases ran
                rw [World.fault?_called_other _ _ (by decide)] at allowed
                exact spared resolved ⟨⟨missing, refused⟩, allowed⟩
          · intro done u _ _
            exact keeps_demand (World.keeps_openFile path)
      | _ => exact keeps_still rfl

theorem keeps_input {path : String} {position : Position} {text : String}
    (spared : ¬ (Action.input path position text).Writes file s) :
    Keeps file (performInput path position text) s := by
  refine keeps_bind (keeps_openForInput ?_) ?_
  · intro resolved creates
    exact spared ⟨resolved, .inr creates⟩
  intro d t ran _
  obtain ⟨resolved, opened⟩ := openForInput_completed ran
  refine keeps_bind (keeps_still rfl) ?_
  intro done u activated _
  cases activated
  refine keeps_bind (keeps_demand (World.keeps_change (c := .insert position text) opened ?_)) ?_
  · rintro rfl b holds next changed
    refine spared ⟨resolved, .inl ?_⟩
    obtain ⟨w, made, stored⟩ := Document.change_made opened holds changed
    obtain ⟨window, shown⟩ := shown_after_insert stored changed
    exact completes_bind ran (completes_bind (run_activate t _)
      (completes_inWorkspace made (completes_inWorkspace shown rfl)))
  · intro done v _ _
    refine keeps_bind (keeps_demand (World.keeps_still (v.world.workspace_inWorkspace_of_still
      (run_insertionWindow_state _ position.line text)))) ?_
    intro window w _ _
    exact keeps_still rfl

theorem keeps_turn {i : Instruction} {c : Change} {version : Buffer → Option Buffer}
    (turns : ∀ b : Buffer, b.change c = .ok (version b))
    (opened : ∀ d, s.session.active = some d → (s.world.workspace.buffer? d.file).isSome)
    (spared : ¬ s.CanTurn file version) :
    Keeps file (do let d ← activeDocument i; demand i (World.inWorkspace (d.change c))) s := by
  refine keeps_bind keeps_activeDocument ?_
  intro d t begun _
  obtain ⟨active, rfl⟩ := activeDocument_completed begun
  refine keeps_demand (World.keeps_change (opened d active) ?_)
  rintro rfl b holds next changed
  refine spared ⟨d, b, active, rfl, holds, ?_⟩
  rw [turns] at changed
  rw [Except.ok.inj changed]
  rfl

/-! ## All actions -/

theorem Action.keeps {a : Action}
    (opened : ∀ d, s.session.active = some d → (s.world.workspace.buffer? d.file).isSome)
    (inside : ∀ command, a ≠ .runInTerminal command) (spared : ¬ a.Writes file s) :
    Keeps file a.perform s := by
  cases a with
  | readFile path start stop =>
      refine keeps_looking (World.keeps_readText path) ?_
      intro result t
      cases result <;> rfl
  | listFiles path =>
      refine keeps_looking (World.keeps_still (s.world.workspace_listDirectory path)) ?_
      intro result t
      cases result <;> rfl
  | createFile path =>
      refine keeps_looking (World.keeps_writeFile ?_) ?_
      · intro allowed resolved
        exact spared ⟨resolved, allowed⟩
      · intro result t
        cases result <;> rfl
  | undo => exact keeps_turn (c := .undo) (fun _ => rfl) opened spared
  | redo => exact keeps_turn (c := .redo) (fun _ => rfl) opened spared
  | input path position text => exact keeps_input spared
  | select range =>
      refine keeps_bind keeps_activeDocument ?_
      intro d t _ _
      refine keeps_bind (keeps_still rfl) ?_
      intro done u _ _
      refine keeps_bind (keeps_textIn _ range) ?_
      intro text v _ _
      exact keeps_still rfl
  | replace path range text => exact keeps_replace spared
  | copy path range =>
      refine keeps_bind (keeps_copyRange _ path range) ?_
      intro d t _ _
      exact keeps_still rfl
  | cut path range => exact keeps_cut spared
  | paste path position => exact keeps_paste spared
  | getSyntaxErrors =>
      refine keeps_bind keeps_activeDocument ?_
      intro d t _ _
      refine keeps_bind (keeps_demand (World.keeps_still (t.world.workspace_diagnose d.path))) ?_
      intro diagnostics u _ _
      exact keeps_still rfl
  | search query =>
      refine keeps_looking (World.keeps_still (s.world.workspace_search query)) ?_
      intro result t
      cases result <;> rfl
  | runInTerminal command => exact absurd rfl (inside command)
  | memoryWrite text => exact keeps_still rfl
  | readMemory => exact keeps_still rfl
  | clearMemory => exact keeps_still rfl
  | clearConversation => exact keeps_still rfl

theorem workspace_runInTerminal (command : String) (s : Scene) :
    ∃ disk, ((performRunInTerminal command).run.run s).2.world.workspace
      = { s.world.workspace with disk } := by
  have asked := s.world.workspace_confirm command
  have begun : (confirm command).run.run s = (.ok (s.world.confirm command).1,
      { s with world := (s.world.confirm command).2 }) := rfl
  unfold performRunInTerminal
  rw [run_bind, begun]
  cases (s.world.confirm command).1 with
  | false => exact ⟨s.world.workspace.disk, asked⟩
  | true =>
      obtain ⟨disk, ran⟩ := (s.world.confirm command).2.workspace_runCommand command
      rw [asked] at ran
      refine ⟨disk, ?_⟩
      simp only [if_true]
      rw [workspace_bind_still, workspace_probe]
      · exact ran
      · intro result t
        cases result <;> rfl

/-- The command does not write the file, in the scene. A terminal command leaves its text as it is,
and the disk without links. -/
structure Script.Command.Avoids (file : Path) (s : Scene) (c : Command) : Prop where
  action : ∀ a, c.action? = .ok (some a) → ¬ a.Writes file s
  terminal : ∀ command, c.action? = .ok (some (.runInTerminal command)) →
    (c.perform.run.run s).2.world.workspace.disk.LinkFree
      ∧ (c.perform.run.run s).2.world.workspace.disk.readText file
        = s.world.workspace.disk.readText file

/-- A command that does not write a file spares it. -/
theorem Script.Command.spares {c : Command}
    (opened : ∀ d, s.session.active = some d → (s.world.workspace.buffer? d.file).isSome)
    (avoids : c.Avoids file s) : Keeps file c.perform s := by
  have terminal := avoids.terminal
  unfold perform at terminal ⊢
  cases action : c.action? with
  | error e => exact keeps_still rfl
  | ok known =>
      cases known with
      | none => exact keeps_still rfl
      | some a =>
          simp only [action] at terminal ⊢
          by_cases outside : ∃ command, a = .runInTerminal command
          · obtain ⟨command, rfl⟩ := outside
            intro has
            obtain ⟨linkFree, same⟩ := terminal command rfl
            obtain ⟨disk, left⟩ := workspace_runInTerminal command s
            have after : ((Action.runInTerminal command).perform.run.run s).2.world.workspace
              = { s.world.workspace with disk } := left
            rw [after] at linkFree same ⊢
            exact .setDisk has.toOrderly linkFree same
          · refine Action.keeps opened ?_ (avoids.action a action)
            rintro command rfl
            exact outside ⟨command, rfl⟩

end

end ReplyScript
